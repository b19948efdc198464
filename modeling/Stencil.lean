import Stencil.Engine.Render
import Stencil.Engine.Summary
import Stencil.Proofs.AngleFree
import Stencil.Proofs.Hereditary
import Stencil.Proofs.SafeText
import Stencil.Proofs.Laundering
import Stencil.Proofs.Parts
import Stencil.Proofs.Coupling
import Stencil.Proofs.CoupledState
import Stencil.Proofs.CoupledExpr
import Stencil.Proofs.CoupledInstr
import Stencil.Proofs.SingleRun
import Stencil.Proofs.Autoescape
import Stencil.Proofs.KnownNames
import Stencil.Proofs.MacroIsolation
import Stencil.Proofs.Compilation
import Stencil.Proofs.Layers
import Stencil.Proofs.Inheritance
import Stencil.Proofs.ChainAliases
import Stencil.Proofs.Dialects
import Stencil.Proofs.RoundTrip
import Stencil.Proofs.NodeHeight
import Stencil.Proofs.Lossless
import Stencil.Proofs.WhitespaceControl
import Stencil.Proofs.Frame
import Stencil.Proofs.FramedExpr
import Stencil.Proofs.FramedInstr
import Stencil.Proofs.Encapsulation
import Stencil.Proofs.Recompilation
import Stencil.Proofs.Supply
import Stencil.Proofs.Requests
import Stencil.Proofs.CacheTransparency
import Stencil.Proofs.CacheContents
import Stencil.Proofs.Moments
import Stencil.Proofs.ScopeArena
import Stencil.Proofs.Confined
import Stencil.Proofs.Regime
import Stencil.Proofs.UpheldExpr
import Stencil.Proofs.UpheldInstr
import Stencil.Proofs.UpheldMoments
import Stencil.Proofs.LoopRounds
import Stencil.Proofs.Boundaries
import Stencil.Proofs.NestedDirectives
import Stencil.Proofs.CallerOwner
import Stencil.Proofs.Siblings
import Stencil.Proofs.SegmentOutput
import Stencil.Proofs.Shorthand
import Stencil.Proofs.TextMerging
import Stencil.Proofs.EmbeddedJson
import Stencil.Proofs.RawBody
import Stencil.Proofs.LoopAppend
import Stencil.Proofs.Entities
import Stencil.Proofs.IntegerArithmetic
import Stencil.Proofs.Progression
import Stencil.Proofs.Sorting
import Stencil.Proofs.Deduplication
import Stencil.Proofs.Truncation
import Stencil.Proofs.Sequences
import Stencil.Proofs.OrderedValues
import Stencil.Proofs.MapWalks
import Stencil.Proofs.Detection
import Stencil.Proofs.StringLiteral
import Stencil.Proofs.CloserNames
