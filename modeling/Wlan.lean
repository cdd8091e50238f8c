import Wlan.Main
import Wlan.Proofs.CommandLine.Connect
import Wlan.Proofs.Manager.Early
import Wlan.Proofs.NetworkManager.Quiescence
import Wlan.Proofs.Settings.RoundTrip
import Wlan.Proofs.NetworkManager.AccessPoint
import Wlan.Proofs.NetworkManager.Device
import Wlan.Proofs.NetworkManager.Reports
import Wlan.Proofs.CommandLine.Replay
import Wlan.Proofs.Toml.Bounded
import Wlan.Proofs.NetworkManager.Replies
import Wlan.Proofs.NetworkManager.Lease
import Wlan.Proofs.Settings.Storing
import Wlan.Proofs.CommandLine.Storing
import Wlan.Proofs.Text.Address
import Wlan.Proofs.CommandLine.Waiting
import Wlan.Proofs.CommandLine.Outcome
import Wlan.Proofs.NetworkManager.Leaving
import Wlan.Proofs.CommandLine.Leaving
import Wlan.Proofs.Manager.Connection
import Wlan.Proofs.Event.Delivery
import Wlan.Proofs.CommandLine.Scanning
import Wlan.Proofs.CommandLine.Secrecy
import Wlan.Proofs.Settings.Networks
import Wlan.Proofs.NetworkManager.DeviceStatus
import Wlan.Proofs.Security
import Wlan.Proofs.CommandLine.Interface
import Wlan.Proofs.NetworkManager.Polling
import Wlan.Proofs.CommandLine.Masking
import Wlan.Proofs.Json
