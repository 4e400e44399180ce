import BitcoinBridge.Json.Basic
import BitcoinBridge.Json.Write
import BitcoinBridge.Json.Read
import BitcoinBridge.Json.RoundTrip
import BitcoinBridge.Serde
import BitcoinBridge.Serde.Accept
import BitcoinBridge.Serde.Reject
import BitcoinBridge.Crypto.Sha256
import BitcoinBridge.Interface.Error
import BitcoinBridge.Interface.ErrorText
import BitcoinBridge.Interface.Dest
import BitcoinBridge.Interface.DestSerde
import BitcoinBridge.Interface.DestAccept
import BitcoinBridge.Interface.Config
import BitcoinBridge.Interface.BitcoinConfig
import BitcoinBridge.Interface.Accounts
import BitcoinBridge.Interface.Msg
