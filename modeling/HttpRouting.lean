import HttpRouting.Config.Files
import HttpRouting.Engine.Call
import HttpRouting.Operation
import HttpRouting.Regex.Plain
import HttpRouting.Segment
import HttpRouting.Template.Filling
import HttpRouting.Template.Grammar
import HttpRouting.Proofs.Action.Resolving
import HttpRouting.Proofs.Engine.Permanence
import HttpRouting.Proofs.Handler.Prefixes
import HttpRouting.Proofs.Http.Environ
import HttpRouting.Proofs.Router.CanonicalUrls
import HttpRouting.Proofs.Router.FailedCalls
import HttpRouting.Proofs.Router.FinalSlash
import HttpRouting.Proofs.Router.Freezing
import HttpRouting.Proofs.Router.Groups
import HttpRouting.Proofs.Router.History
import HttpRouting.Proofs.Router.Hosting
import HttpRouting.Proofs.Router.Inversion
import HttpRouting.Proofs.Router.Isolation
import HttpRouting.Proofs.Router.LookupErrors
import HttpRouting.Proofs.Router.Parameters
import HttpRouting.Proofs.Router.Recovery
import HttpRouting.Proofs.Router.Relocation
import HttpRouting.Proofs.Router.Requesting
import HttpRouting.Proofs.Router.RoutingBack
import HttpRouting.Proofs.Router.Segments
import HttpRouting.Proofs.Router.UrlErrors
import HttpRouting.Proofs.Router.Writing
import HttpRouting.Proofs.Table.Tagging
import HttpRouting.Proofs.Template.Divisions
