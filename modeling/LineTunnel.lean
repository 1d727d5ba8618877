import LineTunnel.Main
import LineTunnel.Transport.Recorded
import LineTunnel.Transport.Script
import LineTunnel.Proofs.Socks.Conversation
import LineTunnel.Proofs.Socks.Reaction
import LineTunnel.Proofs.Socks.Verdict
import LineTunnel.Proofs.Socks.Dialogue
import LineTunnel.Proofs.Socks.Suitable
import LineTunnel.Proofs.Socks.Failing
import LineTunnel.Proofs.Socks.Transcript
import LineTunnel.Proofs.Transport.Carried
import LineTunnel.Proofs.Transport.Giving
import LineTunnel.Proofs.Transport.Holding
import LineTunnel.Proofs.Connection.Operations
import LineTunnel.Proofs.Connection.Transfer
import LineTunnel.Proofs.Connection.Run
import LineTunnel.Proofs.Connection.Change
import LineTunnel.Proofs.Connection.Sending
import LineTunnel.Proofs.Connection.Receiving
import LineTunnel.Proofs.Connection.Tunnel
import LineTunnel.Proofs.Connection.Delivery
import LineTunnel.Proofs.Connection.Lifetime
import LineTunnel.Proofs.Connection.Coherent
import LineTunnel.Proofs.Connection.Sound
import LineTunnel.Proofs.Connection.Fields
import LineTunnel.Proofs.Connection.Simulation
import LineTunnel.Proofs.Connection.Failing
import LineTunnel.Proofs.Connection.Hearing
import LineTunnel.Proofs.Connection.Completed
import LineTunnel.Proofs.Connection.Pieces
import LineTunnel.Proofs.Session.Turns
import LineTunnel.Proofs.Session.Sending
import LineTunnel.Proofs.Connection.Watching
import LineTunnel.Proofs.Connection.Renewal
import LineTunnel.Proofs.Connection.Drained
import LineTunnel.Proofs.Config.Saving
import LineTunnel.Proofs.Framing.Cutting
import LineTunnel.Proofs.Connection.Reading
import LineTunnel.Proofs.Connection.Verdict
import LineTunnel.Proofs.Connection.Filling
import LineTunnel.Proofs.Connection.Overflow
import LineTunnel.Proofs.Connection.Keeping
import LineTunnel.Proofs.Polling.Places
import LineTunnel.Proofs.Polling.Alone
import LineTunnel.Proofs.Polling.Closing
import LineTunnel.Proofs.Session.Connecting
import LineTunnel.Proofs.Session.Reporting
import LineTunnel.Proofs.Session.Receiving
import LineTunnel.Proofs.Session.Arising
import LineTunnel.Proofs.Session.Withholding
import LineTunnel.Proofs.Socks.Request
import LineTunnel.Proofs.Transport.Reading
import LineTunnel.Proofs.Transport.Writing
import LineTunnel.Proofs.ByteQueue.Refinement
import LineTunnel.Proofs.Socks.Frames
import LineTunnel.Proofs.Connection.Requests
import LineTunnel.Proofs.Socks.Extension
import LineTunnel.Proofs.Connection.Settling
import LineTunnel.Proofs.ByteQueue.Growth
