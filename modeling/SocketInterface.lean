import SocketInterface.LineRuns
import SocketInterface.Conversation
import SocketInterface.Terminations
import SocketInterface.Duplex
import SocketInterface.SendLoop
import SocketInterface.Polling
import SocketInterface.NonBlocking
import SocketInterface.HalfClose
import SocketInterface.AddressCodec
import SocketInterface.Library.Method
import SocketInterface.Library.Runs
import SocketInterface.Library.Twin
import SocketInterface.StreamRuns
import SocketInterface.AfterReset
import SocketInterface.ServerRuns
import SocketInterface.ServerFailures
import SocketInterface.ServerMode
import SocketInterface.SocketsRuns
import SocketInterface.Guards
import SocketInterface.AddressObjects
import SocketInterface.AddressText
import SocketInterface.HostLookup
import SocketInterface.StreamFailures
import SocketInterface.SocketsAgree
import SocketInterface.IpText
import SocketInterface.MainPrograms
