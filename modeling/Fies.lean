import Fies.BitMask
import Fies.CRuntime
import Fies.Fault
import Fies.Machine
import Fies.Controller
import Fies.CellFaults
import Fies.CouplingFaults
import Fies.Dispatch
import Fies.FaultLibrary
import Fies.Softmmu
import Fies.StaticFaults
import Fies.DynamicFaults
import Fies.ExceptBind
import Fies.FaultPrimitives
import Fies.DynamicRuns
import Fies.Effects
import Fies.Experiment
import Fies.MaskFaults
import Fies.TimeFaults
import Fies.HeapList
import Fies.FaultList
import Fies.Cpus
import Fies.Decoders
import Fies.PageCrossing
import Fies.DecodedStores
import Fies.InterCoupling
