import QubeticsSdk.Unicode
import QubeticsSdk.Basic
import QubeticsSdk.Retry
import QubeticsSdk.Core.Types
import QubeticsSdk.Core.Fees
import QubeticsSdk.Core.TxBuilder
import QubeticsSdk.Core.Client
import QubeticsSdk.Core.Tx
import QubeticsSdk.Core.Broadcast
import QubeticsSdk.Cron.Scheduler
import QubeticsSdk.Cron.Worker
import QubeticsSdk.Cron.System
import QubeticsSdk.Utils.Base64
import QubeticsSdk.Utils.Crypto
import QubeticsSdk.Node.Session
import QubeticsSdk.Utils.Json
import QubeticsSdk.Utils.Strconv
import QubeticsSdk.Utils.Events
import QubeticsSdk.Core.Session
import QubeticsSdk.Wireguard.Key
import QubeticsSdk.Vpn.Types
import QubeticsSdk.Wireguard.Config
import QubeticsSdk.Wireguard.Firewall
import QubeticsSdk.Wireguard.Statistics
import QubeticsSdk.V2ray.Config
import QubeticsSdk.Wireguard.Server
import QubeticsSdk.V2ray.Server
import QubeticsSdk.V2ray.Runtime
import QubeticsSdk.Vpn.Service
import QubeticsSdk.Vpn.Peers
import QubeticsSdk.Time.Duration
import QubeticsSdk.Config
import QubeticsSdk.Core.Setup
import QubeticsSdk.Node.Client
