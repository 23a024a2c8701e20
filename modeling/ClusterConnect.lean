import ClusterConnect.CommandLine.SampleDatabase
import ClusterConnect.Main
import ClusterConnect.Registry
import ClusterConnect.SharedLoop
import ClusterConnect.Proofs.Attempt.Checks
import ClusterConnect.Proofs.Attempt.Delivery
import ClusterConnect.Proofs.CommandLine.Credentials
import ClusterConnect.Proofs.CommandLine.Passwords
import ClusterConnect.Proofs.CommandLine.Shown
import ClusterConnect.Proofs.Driver.Bounded
import ClusterConnect.Proofs.Driver.Preview
import ClusterConnect.Proofs.Failover.GivingUp
import ClusterConnect.Proofs.Failover.Relay
import ClusterConnect.Proofs.Failover.Reporting
import ClusterConnect.Proofs.Logging.Levels
import ClusterConnect.Proofs.Registry.Bookkeeping
import ClusterConnect.Proofs.Registry.Chain
import ClusterConnect.Proofs.Resolution.Listing
