import XrayProxy.Buf.Buffer
import XrayProxy.Vless.Addons
import XrayProxy.Vless.HeaderAddons
import XrayProxy.Vless.LengthPacket
import XrayProxy.Vless.PacketStream
import XrayProxy.SplitHttp.ClientCache
import XrayProxy.SplitHttp.Upload
import XrayProxy.SplitHttp.Dial
import XrayProxy.Wireguard.Process
import XrayProxy.Wireguard.Forward
