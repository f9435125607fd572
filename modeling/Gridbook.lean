import Gridbook.Proofs.Carrying
import Gridbook.Proofs.Colors
import Gridbook.Proofs.Composing
import Gridbook.Proofs.Counting
import Gridbook.Proofs.Crossing
import Gridbook.Proofs.Cutting
import Gridbook.Proofs.Cycles
import Gridbook.Proofs.Elementwise
import Gridbook.Proofs.Filling
import Gridbook.Proofs.Gathering
import Gridbook.Proofs.Levels
import Gridbook.Proofs.LinearHistory
import Gridbook.Proofs.Locality
import Gridbook.Proofs.LostReferences
import Gridbook.Proofs.NumberReaders
import Gridbook.Proofs.Offsetting
import Gridbook.Proofs.Printing
import Gridbook.Proofs.Recursion
import Gridbook.Proofs.Reimporting
import Gridbook.Proofs.Replacing
import Gridbook.Proofs.Reporting
import Gridbook.Proofs.Sessions
import Gridbook.Proofs.Storing
import Gridbook.Proofs.StyleOrder
import Gridbook.Proofs.Trails
import Gridbook.Sheet.Json
import Gridbook.Value.Json
