import PwdNow.Client.CardUtils
import PwdNow.Client.ClearKeys
import PwdNow.Client.DaemonWire
import PwdNow.Client.DuressCounter
import PwdNow.Client.FailedLoad
import PwdNow.Client.LeavingTravel
import PwdNow.Client.LostWrites
import PwdNow.Client.NewestWrite
import PwdNow.Client.PasswordGenerator
import PwdNow.Client.ServerReplies
import PwdNow.Client.TravelView
import PwdNow.Client.VaultHealth
import PwdNow.Client.ZipReader
import PwdNow.Daemon.AuditTrail
import PwdNow.Daemon.BackupCodes
import PwdNow.Daemon.Challenges
import PwdNow.Daemon.FailedUnlock
import PwdNow.Daemon.FolderDeletion
import PwdNow.Daemon.HeaderContents
import PwdNow.Daemon.Hibp
import PwdNow.Daemon.KdfTune
import PwdNow.Daemon.LockOrder
import PwdNow.Daemon.LockoutRuns
import PwdNow.Daemon.Migration
import PwdNow.Daemon.SessionCaps
import PwdNow.Daemon.Sidecar
import PwdNow.Daemon.SignCount
import PwdNow.Daemon.Substitution
import PwdNow.Daemon.WipeCause
import PwdNow.Daemon.WipeTicket
import PwdNow.Daemon.WrapKey
import PwdNow.Server.DuressEnforce
import PwdNow.Server.Enumeration
import PwdNow.Server.Mirror
import PwdNow.Server.ResourceBinding
import PwdNow.Server.Revocation
import PwdNow.Server.RevokedSessions
import PwdNow.Server.SecondFactor
import PwdNow.Server.SecureOverwrite
import PwdNow.Server.Shares
import PwdNow.Server.TamperEvidence
import PwdNow.Server.Throttles
import PwdNow.Server.UsersLock
