import Switchboard.Declaration.AppStructure
import Switchboard.Declaration.ServiceBlock
import Switchboard.Recovery.Script
import Switchboard.Regex
import Switchboard.Samples.Deeds
import Switchboard.Samples.Services
import Switchboard.Server.Deployment
import Switchboard.Proofs.Addresses
import Switchboard.Proofs.Answers
import Switchboard.Proofs.Arrays
import Switchboard.Proofs.Histories
import Switchboard.Proofs.Enrolments
import Switchboard.Proofs.Folding
import Switchboard.Proofs.Spellings
import Switchboard.Proofs.Heads
import Switchboard.Proofs.Serving
import Switchboard.Proofs.Crashes
import Switchboard.Proofs.Gates
import Switchboard.Proofs.Writes
import Switchboard.Proofs.Replies
import Switchboard.Proofs.AdditionOrder
import Switchboard.Proofs.Effects
import Switchboard.Proofs.FailedApps
import Switchboard.Proofs.HiddenNames
import Switchboard.Proofs.Patterns
import Switchboard.Proofs.Routes
import Switchboard.Proofs.EchoedIds
import Switchboard.Proofs.Bindings
import Switchboard.Proofs.Verdicts
import Switchboard.Proofs.WordStyles
import Switchboard.Proofs.Underscores
import Switchboard.Proofs.Backtraces
import Switchboard.Proofs.Chains
import Switchboard.Proofs.AnnouncedLengths
import Switchboard.Proofs.Exposure
import Switchboard.Proofs.Enclosure
