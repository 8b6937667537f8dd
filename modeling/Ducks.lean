import Ducks.Schema
import Ducks.Lib.Unicode
import Ducks.Validation
import Ducks.Errors
import Ducks.Api.Types
import Ducks.Api.Webhooks
import Ducks.Controller.ClusterRoles
import Ducks.Controller.ReadyCheck
import Ducks.Controller.CustomResourceDefinition
import Ducks.Lib.Loop
import Ducks.Client.DuckClient
import Ducks.Reconcilers.SubManager
import Ducks.Lib.Chan
import Ducks.Client.Broker
import Ducks.Client.Informers
import Ducks.Client.Shutdown
import Ducks.Internal.SubManager
import Ducks.Controller.DuckReconciler
import Ducks.Reconcilers.Setup
