import OfpActions.Bytes
import OfpActions.Codes
import OfpActions.Ofpact
import OfpActions.Decode
import OfpActions.Pull
import OfpActions.Verify
import OfpActions.Check
import OfpActions.Encode
import OfpActions.Walk
import OfpActions.Locality
import OfpActions.Buffer
import OfpActions.Records
import OfpActions.Instructions
import OfpActions.Shape
import OfpActions.RoundTrip
import OfpActions.Image
import OfpActions.Translate
import OfpActions.Synthesis
import OfpActions.InstructionSet
import OfpActions.Runs
import OfpActions.Laws
import OfpActions.Canonical
import OfpActions.Reserved
import OfpActions.Accept
import OfpActions.Format
import OfpActions.Dump
import OfpActions.Outputs
