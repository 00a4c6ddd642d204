import Courier.Main
import Courier.Registry.Rehearsal
import Courier.Proofs.Routing
import Courier.Proofs.Traffic.Agreement
import Courier.Proofs.Traffic.Mail
import Courier.Proofs.Traffic.Places
import Courier.Proofs.Rehearsal
import Courier.Proofs.Inflow
import Courier.Proofs.Listening.Printed
import Courier.Proofs.Config
import Courier.Proofs.Retrieval
import Courier.Proofs.Engine.Lending
import Courier.Proofs.Session.Course
import Courier.Proofs.Session.Connect
import Courier.Proofs.Session.Disconnect
import Courier.Proofs.Session.Outflow
import Courier.Proofs.Session.Rounds
import Courier.Proofs.Session.Handover
import Courier.Proofs.Session.Parking
import Courier.Proofs.Topic.Validation
import Courier.Proofs.Communicator.Tenancy
import Courier.Proofs.Communicator.Payload
import Courier.Proofs.Session.OneShot
import Courier.Proofs.Config.Layout
