import Wristband.Broker.Callers
import Wristband.Proofs.Broker.LastAnswer
import Wristband.Proofs.Session.Protection
import Wristband.Proofs.Session.Unguarded
import Wristband.Reader.Basic
import Wristband.Reader.ConfigJson
import Wristband.Scan.Policy
import Wristband.Scan.ResultJson
import Wristband.Tag.Named
import Wristband.Tag.Recorded
import Wristband.Proofs.Cipher.Block
import Wristband.Proofs.Cipher.Aes
import Wristband.Proofs.Cipher.Cmac
import Wristband.Proofs.SecureChannel
import Wristband.Proofs.Handshake.Progress
import Wristband.Proofs.Cipher.Des
import Wristband.Proofs.Tag.Authentication
import Wristband.Proofs.Session.InStep
import Wristband.Proofs.Handshake.Agreement
import Wristband.Proofs.Session.Mutual
import Wristband.Proofs.Tag.Content
import Wristband.Proofs.Tag.Requests
import Wristband.Proofs.Scan.Served
import Wristband.Proofs.Scan.Written
import Wristband.Proofs.Session.Conversation
import Wristband.Proofs.Session.Reading
import Wristband.Proofs.Session.Recognised
import Wristband.Proofs.Session.Writing
import Wristband.Proofs.Scan.Reads
import Wristband.Proofs.Scan.FailedWrites
import Wristband.Proofs.Session.Mirror
import Wristband.Proofs.Session.Reflection
import Wristband.Proofs.Session.Estranged
import Wristband.Proofs.Tag.Faults
import Wristband.Proofs.Tag.SpoiltCode
import Wristband.Proofs.Scan.Reflection
import Wristband.Proofs.Scan.Closing
import Wristband.Proofs.Scan.Parted
import Wristband.Proofs.Scan.Interrupted
import Wristband.Proofs.Scan.Corrupted
import Wristband.Proofs.Scan.SpoiltResponse
import Wristband.Proofs.Scan.Mismatch
import Wristband.Proofs.Broker.Release
import Wristband.Proofs.Broker.Wakeups
import Wristband.Proofs.Session.Reopening
import Wristband.Proofs.Scan.Preconditions
import Wristband.Proofs.Broker.Succession
import Wristband.Proofs.Session.Remembered
import Wristband.Proofs.Session.Fatal
import Wristband.Proofs.Scan.Restricted
import Wristband.Proofs.Session.Contents
import Wristband.Proofs.Text.Utf8
import Wristband.Proofs.Scan.RoundTrip
import Wristband.Proofs.Scan.ResultJson
import Wristband.Proofs.Tag.Secrecy
import Wristband.Proofs.Tag.Exposure
import Wristband.Proofs.Cipher.Permutation
import Wristband.Proofs.Handshake.Lifetime
import Wristband.Proofs.Handshake.Confirmation
import Wristband.Proofs.SecureChannel.Replay
import Wristband.Proofs.Reader.Lifecycle
import Wristband.Proofs.Handshake.Decoded
import Wristband.Proofs.Session.Trials
import Wristband.Proofs.Scan.ReadOnly
import Wristband.Proofs.Scan.Rekeyed
import Wristband.Proofs.Scan.KeyTrials
import Wristband.Proofs.Scan.Refusals
import Wristband.Proofs.SecureChannel.Acceptance
import Wristband.Proofs.Handshake.Chaining
import Wristband.Proofs.Tag.Frames
import Wristband.Proofs.AuthKey
import Wristband.Proofs.Uid
import Wristband.Proofs.Bits.Sequence
