import Aokie.Lib.BigEndian
import Aokie.Lib.Utf16
import Aokie.Radio.Hfp.HandsFree
import Aokie.Radio.Rfcomm.RoundTrip
import Aokie.Radio.Rfcomm.Client
import Aokie.Radio.Rfcomm.Server
import Aokie.Radio.HfpClient
import Aokie.Radio.Rfcomm.Isolation
import Aokie.Radio.Rfcomm.Handshake
import Aokie.Radio.Rfcomm.ClientDlci
import Aokie.Radio.Rfcomm.ClientEvents
import Aokie.Radio.Rfcomm.Closing
import Aokie.Radio.Rfcomm.Reopening
import Aokie.Radio.Hfp.CallState
import Aokie.Radio.Hfp.Reassembly
import Aokie.Radio.Hfp.CallEvents
import Aokie.Radio.Hfp.SetupEnd
import Aokie.Radio.Rfcomm.Refusals
import Aokie.Radio.Obex.Packet
import Aokie.Radio.Obex.RoundTrip
import Aokie.Lib.Utf8
import Aokie.Radio.Map.Listing
import Aokie.Radio.Map.Mns
import Aokie.Msbc.Stream
import Aokie.Lib.Table
import Aokie.Lib.Json
import Aokie.Lib.Rfc3339
import Aokie.Plugin.Outbox.Payload
import Aokie.Plugin.Outbox.Store
import Aokie.Plugin.Outbox.Threads
import Aokie.Plugin.Outbox.Effects
import Aokie.Plugin.Outbox.Lattice
import Aokie.Plugin.Outbox.Waiting
import Aokie.Plugin.Outbox.Content
import Aokie.Plugin.Outbox.Held
import Aokie.Radio.Sdp.Agreement
import Aokie.Radio.Map.MasFolders
import Aokie.Radio.Map.MasBodies
import Aokie.Radio.Map.MnsChains
import Aokie.Radio.Map.SmsPush
import Aokie.Radio.PumpAgreement
import Aokie.Radio.PumpRun
import Aokie.Radio.SlcProgress
import Aokie.Radio.L2cap.Wire
import Aokie.Radio.L2cap.State
import Aokie.Radio.L2cap.Fragments
import Aokie.Radio.L2cap.Action
import Aokie.Radio.L2cap.Configuration
import Aokie.Radio.L2cap.Watchdog
import Aokie.Radio.L2cap.Connections
import Aokie.Lib.Framing
import Aokie.Lib.JsonValue
import Aokie.Lib.Lines
import Aokie.Lib.Log
import Aokie.Lib.Run
import Aokie.Lib.Rust
import Aokie.Lib.Utf8Check
import Aokie.Media.Binding
import Aokie.Msbc.H2
import Aokie.Plugin.Assistance.Broker
import Aokie.Plugin.Relay.Channel
import Aokie.Plugin.Relay.Addressing
import Aokie.Plugin.Relay.Reading
import Aokie.Plugin.Relay.Sse
import Aokie.Plugin.Relay.SseChunks
import Aokie.Plugin.RemoteMedia.Claims
import Aokie.Plugin.RemoteMedia.Fence
import Aokie.Plugin.RemoteMedia.Line
import Aokie.Plugin.RemoteMedia.Moves
import Aokie.Plugin.RemoteMedia.Opening
import Aokie.Plugin.RemoteMedia.Operations
import Aokie.Plugin.RemoteMedia.OwnerFence
import Aokie.Plugin.RemoteMedia.Renewal
import Aokie.Plugin.RemoteMedia.Reservation
import Aokie.Plugin.RemoteMedia.Revision
import Aokie.Plugin.RemoteMedia.State
import Aokie.Plugin.RemoteMedia.Turns
import Aokie.Protocol.Text
import Aokie.Protocol.Wire
import Aokie.Radio.Hfp.Command
import Aokie.Radio.Hfp.Result
import Aokie.Radio.L2cap.Packet
import Aokie.Radio.Map.Mas
import Aokie.Radio.Rfcomm.DlciView
import Aokie.Radio.Rfcomm.Frame
import Aokie.Radio.Rfcomm.Session
import Aokie.Radio.Sdp.Client
import Aokie.Radio.Sdp.DataElement
import Aokie.Radio.Sdp.Element
import Aokie.Radio.Sdp.Server
import Aokie.Lib.JsonCanonical
import Aokie.Lib.JsonRecord
import Aokie.Protocol.Errors
import Aokie.Protocol.Canonical
import Aokie.Protocol.Claims
import Aokie.Gateway.Replay
import Aokie.Protocol.ClaimChecks
import Aokie.Gateway.Tokens
import Aokie.Core.UrlClassification
import Aokie.Lib.IpText
import Aokie.Lib.Keyed
import Aokie.Plugin.Consent
import Aokie.Plugin.ConsentGate
import Aokie.Plugin.EndpointHttp
import Aokie.Plugin.ManagerAuth
import Aokie.Plugin.Outbox.Alone
import Aokie.Plugin.Relay.Sending
import Aokie.Plugin.Relay.Fitting
import Aokie.Plugin.Transfer.Cancelling
import Aokie.Plugin.Transfer.SplitRefusal
import Aokie.Plugin.TranscriptSettle
import Aokie.Plugin.WaitingCallers
import Aokie.Radio.L2cap.Allocation
import Aokie.Radio.L2cap.Answers
import Aokie.Radio.Rfcomm.Credits
import Aokie.Protocol.HelloWindow
import Aokie.Protocol.SanitizeLine
import Aokie.Protocol.ServerClock
import Aokie.Plugin.Switchboard
import Aokie.Plugin.RemoteConsent
import Aokie.Plugin.SettingsSet
import Aokie.Plugin.RealtimeVoice.Pacer
import Aokie.Plugin.RealtimeVoice.Resampler
import Aokie.Plugin.RealtimeAppointment.Request
import Aokie.Plugin.RealtimeAppointment.SpokenDays
import Aokie.Plugin.SpeechPlan.Digits
import Aokie.Plugin.CommandJournal
import Aokie.Plugin.Assistance.Winner
import Aokie.Plugin.Transfer.Ceilings
import Aokie.Plugin.SpeechPlan.Unspoken
