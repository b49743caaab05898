import Mbstf.Core.Runs
import Mbstf.Core.SetIndex
import Mbstf.Core.DeadlineOrder
import Mbstf.Core.RecursiveLock
import Mbstf.Core.MapTotal
import Mbstf.Core.SharedMutex
import Mbstf.Core.Held
import Mbstf.Core.Folds
import Mbstf.Core.PriorityOrder
import Mbstf.Core.Rounds
import Mbstf.Core.StringView
import Mbstf.Core.Binary64
import Mbstf.Core.LockOrder
import Mbstf.Core.JoinHolding
import Mbstf.Subscription.Event
import Mbstf.Subscription.Service
import Mbstf.Subscription.View
import Mbstf.Subscription.Delivery
import Mbstf.Subscription.Population
import Mbstf.Subscription.Links
import Mbstf.Subscription.CopyMove
import Mbstf.Subscription.AsyncLoop
import Mbstf.Subscription.Stopping
import Mbstf.Subscription.DispatchChanges
import Mbstf.Objects.Store
import Mbstf.Objects.Packager
import Mbstf.Objects.PackagerBooks
import Mbstf.Objects.Mirror
import Mbstf.Objects.InFlight
import Mbstf.Objects.Progress
import Mbstf.Locking.Regions
import Mbstf.Locking.Threads
import Mbstf.Locking.ThreadOrder
import Mbstf.Locking.Finishing
import Mbstf.Session.BitRate
import Mbstf.Session.Numerals
import Mbstf.Session.BitRateText
import Mbstf.Session.DistSession
import Mbstf.Session.RateLimit
import Mbstf.Session.Controllers
import Mbstf.Session.Constructors
import Mbstf.Session.Untouched
import Mbstf.Session.Factories
import Mbstf.Session.Context
import Mbstf.Session.ListenAddresses
import Mbstf.Session.Load
import Mbstf.Session.Requests
import Mbstf.Session.Classification
import Mbstf.Session.SessionMap
import Mbstf.Session.Dispatch
import Mbstf.Session.Answering
import Mbstf.Ingest.Numbers
import Mbstf.Ingest.Curl
import Mbstf.Ingest.OwnResponse
import Mbstf.Ingest.HeaderTotality
import Mbstf.Ingest.HeaderCase
import Mbstf.Ingest.PushRequest
import Mbstf.Ingest.PushIngester
import Mbstf.Ingest.PushStores
import Mbstf.Ingest.PushAnswers
import Mbstf.Ingest.BaseUrl
import Mbstf.Ingest.PullIngester
import Mbstf.Ingest.PermanentRedirect
import Mbstf.Ingest.PullItems
import Mbstf.Ingest.PullOrder
import Mbstf.Ingest.OwnKey
import Mbstf.Ingest.Freshness
import Mbstf.Ingest.ExpiryArithmetic
import Mbstf.Controller.PackagerThreads
import Mbstf.Controller.System
import Mbstf.Controller.EventLoops
import Mbstf.Controller.NoDangling
import Mbstf.Controller.Startup
import Mbstf.Controller.Listening
import Mbstf.Controller.SingleMode
import Mbstf.Controller.Versions
import Mbstf.Controller.Teardown
import Mbstf.Controller.ManifestUrl
import Mbstf.Controller.PullWorker
import Mbstf.Controller.ManifestRefresh
import Mbstf.Controller.ScheduledPulls
import Mbstf.Core.Observed
import Mbstf.Controller.PackagerQueue
import Mbstf.Controller.Deliveries
import Mbstf.Controller.Borrowed
import Mbstf.Controller.AddedOrder
import Mbstf.Controller.Draining
import Mbstf.Controller.RefreshChain
import Mbstf.Core.Feeding
import Mbstf.Core.Matched
import Mbstf.Ingest.PushBodies
import Mbstf.Controller.SentObjects
import Mbstf.Controller.Uploads
