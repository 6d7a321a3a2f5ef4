import Connector.Client
import Connector.Main
import Connector.Proofs.AdvertisedRoutes
import Connector.Proofs.Answers
import Connector.Proofs.CallCounts
import Connector.Proofs.CodedRoutes
import Connector.Proofs.Contests
import Connector.Proofs.Courses
import Connector.Proofs.Deliveries
import Connector.Proofs.Insertions
import Connector.Proofs.Isolation
import Connector.Proofs.MessageHeads
import Connector.Proofs.Outflow
import Connector.Proofs.Rest
import Connector.Proofs.Rosters
import Connector.Proofs.Serving
import Connector.Proofs.ShortestForms
import Connector.Proofs.Statuses
import Connector.Proofs.TypeNames
