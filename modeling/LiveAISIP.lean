import LiveAISIP.Call.AuthRetries
import LiveAISIP.Call.CommandQueue
import LiveAISIP.Call.ExitReports
import LiveAISIP.Call.FailedInvite
import LiveAISIP.Call.ForkedBye
import LiveAISIP.Call.Forwarding
import LiveAISIP.Call.Hangup
import LiveAISIP.Call.MediaClock
import LiveAISIP.Call.MediaCommits
import LiveAISIP.Call.MediaIngress
import LiveAISIP.Call.Rejections
import LiveAISIP.Call.ResponseIsolation
import LiveAISIP.Call.Transfer
import LiveAISIP.Dialog.ReliableServer
import LiveAISIP.Dialog.SessionTimer
import LiveAISIP.Rtp.Clock
import LiveAISIP.Rtp.Dtmf.Delivery
import LiveAISIP.Rtp.Dtmf.Discipline
import LiveAISIP.Rtp.ExtensionElements
import LiveAISIP.Rtp.FilterRange
import LiveAISIP.Rtp.QueueRuns
import LiveAISIP.Rtp.Restarts
import LiveAISIP.Rtp.Send
import LiveAISIP.Rtp.Takeover
import LiveAISIP.Rtp.Transport.Allocator
import LiveAISIP.Runtime.RetrySuppression
import LiveAISIP.Sip.ChallengeSelection
import LiveAISIP.Sip.LogicalValue
import LiveAISIP.Sip.RoundTrip
import LiveAISIP.Sip.Sdp.RoundTrip
import LiveAISIP.Sip.Sdp.RtpNegotiation
import LiveAISIP.Sip.ToRoundTrip
import LiveAISIP.Sip.Transport.Backoff
import LiveAISIP.Sip.Transport.ResolutionPlan
import LiveAISIP.Sip.Transport.TcpReceive
import LiveAISIP.Sip.Transport.Writes
import LiveAISIP.Sip.ViaFields
import LiveAISIP.Transaction.ClientAcks
import LiveAISIP.Transaction.IndependentClients
import LiveAISIP.Transaction.Retransmissions
import LiveAISIP.Transaction.ServerStability
import LiveAISIP.Transaction.ServerTimers
