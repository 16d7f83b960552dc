import TrialFarm.Hash
import TrialFarm.Main
import TrialFarm.Verbosity
import TrialFarm.Worker.Problem
import TrialFarm.Proofs.Server.Completion
import TrialFarm.Proofs.Cluster.Shutdown
import TrialFarm.Proofs.Server.Runs
import TrialFarm.Proofs.Server.Activation
import TrialFarm.Proofs.Server.Discipline
import TrialFarm.Proofs.Server.Statistics
import TrialFarm.Proofs.Server.Sendable
import TrialFarm.Proofs.Server.Merging
import TrialFarm.Proofs.Server.Exhaustion
import TrialFarm.Proofs.Server.Refusals
import TrialFarm.Proofs.Server.Departure
import TrialFarm.Proofs.Server.Records
import TrialFarm.Proofs.Server.Dispatching
import TrialFarm.Proofs.Wire.Negotiation
import TrialFarm.Proofs.Cnf.Printing
import TrialFarm.Proofs.Search.Solutions
import TrialFarm.Proofs.Search.Reproducible
import TrialFarm.Proofs.Search.Recomputed
import TrialFarm.Proofs.Worker.Etiquette
import TrialFarm.Proofs.Manager.Correspondence
import TrialFarm.Proofs.Cnf.Preparation
import TrialFarm.Proofs.Cnf.Table
import TrialFarm.Proofs.Search.Effects
import TrialFarm.Proofs.Search.Seeds
import TrialFarm.Proofs.Server.Unattended
import TrialFarm.Proofs.Server.Connections
import TrialFarm.Proofs.Manager.Recruiting
import TrialFarm.Proofs.Worker.Handles
import TrialFarm.Proofs.Rendezvous.Names
import TrialFarm.Proofs.Rendezvous.Directory
