import ProxVM.Iam.Conferral
import ProxVM.Iam.VmAdministration
import ProxVM.Iam.InitialAdmin
import ProxVM.Iam.AuthPlugin
import ProxVM.Provisioning.Resume
import ProxVM.Provisioning.Stranding
import ProxVM.Drift.Evidence
import ProxVM.Iam.SweepRuns
import ProxVM.Rotation.Release
import ProxVM.Rotation.Interleaving
import ProxVM.Routes.Guacamole
import ProxVM.Routes.VmAssignments
import ProxVM.Guacamole.SessionTokens
import ProxVM.Schedules.UserClass
import ProxVM.Registration.Availability
import ProxVM.Routes.Listings
import ProxVM.Routes.ShareRedemption
import ProxVM.Routes.Suspension
import ProxVM.Routes.BulkActions
import ProxVM.Firewall.FailOpen
import ProxVM.Provisioning.Policy
import ProxVM.Routes.DeletedGuests
import ProxVM.Routes.MigrationRuns
import ProxVM.Services.ClientCache
import ProxVM.Ssh.Pinning
import ProxVM.Power.Idle
import ProxVM.Ticker.Cap
import ProxVM.Ticker.Finality
import ProxVM.Ticker.Minutes
import ProxVM.Domains.Reports
import ProxVM.Domains.Gated
import ProxVM.Domains.Published
import ProxVM.Iam.GroupPermissions
import ProxVM.Iam.MergedGrants
import ProxVM.Iam.Reconciliation
import ProxVM.Threats.Alerts
import ProxVM.Db.Migrate
import ProxVM.Drift.Network
import ProxVM.Guacamole.Addresses
import ProxVM.Routes.VmGrants
import ProxVM.Routes.VmClone
import ProxVM.Routes.UserAdministration
import ProxVM.Util.Ipv6Text
import ProxVM.Firewall.Packets
import ProxVM.Iam.Lockout
import ProxVM.Rotation.WindowsCommands
import ProxVM.Ssh.Sessions
import ProxVM.Provisioning.NetDevice
import ProxVM.Routes.MigrationRefusal
import ProxVM.Util.Csv
import ProxVM.Services.AuditDetail
import ProxVM.Services.Cipher
import ProxVM.Domains.Ingress
import ProxVM.Guacamole.Permissions
import ProxVM.Threats.Bursts
import ProxVM.Power.Usage
import ProxVM.Services.Snapshots
import ProxVM.Domains.NextName
import ProxVM.Login.Revocation
