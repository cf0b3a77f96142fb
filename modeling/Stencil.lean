import Stencil.Error.Excerpt
import Stencil.Gallery
import Stencil.Gallery.Resolvers
import Stencil.Json.Reading
import Stencil.Program.Machine
import Stencil.Session
import Stencil.Proofs.Computation
import Stencil.Proofs.Layout
import Stencil.Proofs.Isolation
import Stencil.Proofs.Simulation
import Stencil.Proofs.Transitions
import Stencil.Proofs.Accounting
import Stencil.Proofs.Consumption
import Stencil.Proofs.Decimals
import Stencil.Proofs.DerivedKey
import Stencil.Proofs.Forgetful
import Stencil.Proofs.Orderly
import Stencil.Proofs.CommaLists
import Stencil.Proofs.Markup
import Stencil.Proofs.Stacks
import Stencil.Proofs.Nesting
import Stencil.Proofs.CachedBlocks
import Stencil.Proofs.Bypass
import Stencil.Proofs.BoundedOutput
import Stencil.Proofs.Termination
import Stencil.Proofs.Tiling
import Stencil.Proofs.DirectiveText
import Stencil.Proofs.LocalizedViews
import Stencil.Proofs.Pairing
import Stencil.Proofs.Halting
import Stencil.Proofs.IncludeDepth
import Stencil.Proofs.Excerpts
import Stencil.Proofs.LinkTargets
import Stencil.Proofs.GeneratedTags
import Stencil.Proofs.Lifetimes
import Stencil.Proofs.CacheHits
import Stencil.Proofs.LiteralTags
import Stencil.Proofs.Pages
import Stencil.Proofs.Permissions
import Stencil.Proofs.SafeCompilation
import Stencil.Proofs.ArgumentFaults
import Stencil.Proofs.Scoping
import Stencil.Proofs.PageFacts
import Stencil.Proofs.NamedExpressions
import Stencil.Proofs.Headers
import Stencil.Proofs.EscapedText
import Stencil.Proofs.Durations
import Stencil.Proofs.ExcerptPlaces
import Stencil.Proofs.InlineMarkdown
import Stencil.Proofs.InvalidDigits
