import RuuviGateway.AdvPost.Dispatch
import RuuviGateway.AdvPost.InForce
import RuuviGateway.AdvPost.ManufId
import RuuviGateway.AdvPost.MqttTransfer
import RuuviGateway.AdvPost.NetworkFlag
import RuuviGateway.AdvPost.ReportJson
import RuuviGateway.AdvPost.Requests
import RuuviGateway.AdvPost.Retransmission
import RuuviGateway.AdvPost.StatisticsLoss
import RuuviGateway.AdvPost.TimerPeriods
import RuuviGateway.AdvTable.Clear
import RuuviGateway.AdvTable.History
import RuuviGateway.AdvTable.Statistics
import RuuviGateway.Board.RuntimeStat
import RuuviGateway.Board.SwitchBalance
import RuuviGateway.Boot.ResetInfo
import RuuviGateway.Config.Credentials
import RuuviGateway.Config.Events
import RuuviGateway.Config.NumericGetters
import RuuviGateway.Config.PostBack
import RuuviGateway.Config.Replace
import RuuviGateway.Config.ScanFilter
import RuuviGateway.Config.Updating
import RuuviGateway.Events.EventMgr
import RuuviGateway.Events.Subscriptions
import RuuviGateway.FwUpdate.Actions
import RuuviGateway.FwUpdate.BaseUrl
import RuuviGateway.FwUpdate.Partitions
import RuuviGateway.FwUpdate.ReleaseInfo
import RuuviGateway.FwUpdate.Tasks
import RuuviGateway.General.Brackets
import RuuviGateway.General.Handles
import RuuviGateway.General.NumberParts
import RuuviGateway.General.Numerals
import RuuviGateway.General.PercentEncoding
import RuuviGateway.General.Signals
import RuuviGateway.General.StrBuf
import RuuviGateway.General.WriteLog
import RuuviGateway.Http.ClientRequest
import RuuviGateway.Http.Download
import RuuviGateway.Http.History
import RuuviGateway.Http.Hmac
import RuuviGateway.Http.JsonBody
import RuuviGateway.Http.MqttUrl
import RuuviGateway.Http.QueryParams
import RuuviGateway.Http.RemoteCfg
import RuuviGateway.Http.ResponseBuffer
import RuuviGateway.Http.SavedPassword
import RuuviGateway.Http.Senders
import RuuviGateway.Http.UrlDecode
import RuuviGateway.Http.UrlEncode
import RuuviGateway.Http.ValidateUrl
import RuuviGateway.Leds.Blinking
import RuuviGateway.Leds.Ctrl
import RuuviGateway.Leds.Notifications
import RuuviGateway.Leds.Runs
import RuuviGateway.MainLoop.FwUpdateCheck
import RuuviGateway.Mqtt.Client
import RuuviGateway.Mqtt.InstantMode
import RuuviGateway.Mqtt.LifeCycle
import RuuviGateway.Mqtt.Publish
import RuuviGateway.Mqtt.Receive
import RuuviGateway.Network.View
import RuuviGateway.Nrf52Fw.Image
import RuuviGateway.Nrf52Fw.SegmentLine
import RuuviGateway.Nrf52Fw.Update
import RuuviGateway.Nrf52Fw.Version
import RuuviGateway.Relaying.GiveBack
import RuuviGateway.Relaying.Suspension
import RuuviGateway.Settings.Blob
import RuuviGateway.Settings.Migration
import RuuviGateway.Settings.Nvs
import RuuviGateway.Time.TimeStr
import RuuviGateway.Time.ZoneLaw
import RuuviGateway.Tls.CrtBundle
import RuuviGateway.Board.TaskWdt
