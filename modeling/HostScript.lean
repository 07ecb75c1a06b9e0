import HostScript.Engine.HostFunctions
import HostScript.Main
import HostScript.Value.Equality
import HostScript.Proofs.Isolation
import HostScript.Proofs.Delivery
import HostScript.Proofs.Stopping
import HostScript.Proofs.Starvation
import HostScript.Proofs.Names
import HostScript.Proofs.Agreement
import HostScript.Proofs.Assembly
import HostScript.Proofs.Cleanup
import HostScript.Proofs.Laws
import HostScript.Proofs.Termination
import HostScript.Proofs.PrivateBus
import HostScript.Proofs.FrameLaw
import HostScript.Proofs.Sessions
import HostScript.Proofs.Restoration
import HostScript.Proofs.CallDepth
import HostScript.Proofs.Bisimulation
import HostScript.Proofs.Budget
import HostScript.Proofs.Halting
import HostScript.Proofs.Judges
import HostScript.Proofs.LoopSignals
import HostScript.Proofs.Tiling
import HostScript.Proofs.Lexing.Literals
import HostScript.Proofs.Lexing.Boundaries
import HostScript.Proofs.Lexing.Respacing
import HostScript.Proofs.Lexing.Templates
import HostScript.Proofs.Places
import HostScript.Proofs.Parsing
import HostScript.Proofs.Grammar.Writing
import HostScript.Proofs.Grammar.Soundness
import HostScript.Proofs.Grammar.Completeness
import HostScript.Proofs.Grammar.Progress
import HostScript.Proofs.Grammar.Consumption
import HostScript.Proofs.Grammar.Height
import HostScript.Proofs.Grammar.Levels
import HostScript.Proofs.Grammar.Abreast
import HostScript.Proofs.Grammar.Layout
import HostScript.Proofs.Relocation
import HostScript.Proofs.Grammar.Seams
import HostScript.Proofs.Grammar.Concatenation
import HostScript.Proofs.Locations
import HostScript.Proofs.Numbers
import HostScript.Proofs.Unfolding
import HostScript.Proofs.Documents.Decimals
import HostScript.Proofs.Documents.Grammar
import HostScript.Proofs.Documents.Reading
import HostScript.Proofs.Documents.Nesting
import HostScript.Proofs.Documents.RoundTrip
import HostScript.Proofs.Storage.Writing
import HostScript.Proofs.Storage.Renaming
import HostScript.Proofs.Storage.Evaluation
import HostScript.Proofs.Storage.Expansion
import HostScript.Proofs.Rounds
import HostScript.Proofs.Entries
import HostScript.Proofs.Documents.WellFormed
import HostScript.Proofs.Documents.Rendering
import HostScript.Proofs.NearestBinding
import HostScript.Proofs.Histories
import HostScript.Proofs.Traffic
import HostScript.Proofs.CommandLine
import HostScript.Proofs.Splitting
import HostScript.Proofs.Files.Confinement
import HostScript.Proofs.Lines
import HostScript.Proofs.SettingLines
