import SoloMachine.Proto
import SoloMachine.Chain
import SoloMachine.Segment
import SoloMachine.StateProof
import SoloMachine.Builder
import SoloMachine.Segments
import SoloMachine.Poll
import SoloMachine.Sequence
import SoloMachine.Attestation
import SoloMachine.Scheduler
import SoloMachine.Tendermint
import SoloMachine.Serializability
import SoloMachine.Completion
