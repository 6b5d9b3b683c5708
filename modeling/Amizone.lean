import Amizone.Basic
import Amizone.Drive
import Amizone.Server.SessionCache
import Amizone.Server.Lemmas.Lock
import Amizone.Server.Lemmas.Progress
import Amizone.Server.Sequential
import Amizone.Server.Lemmas.Solo
import Amizone.Server.Lemmas.Reuse
import Amizone.Server.Screenshot
import Amizone.Server.Lemmas.Limiter
import Amizone.Server.Handlers
import Amizone.Server.Lemmas.Handlers
import Amizone.Server.Theorems
import Amizone.Parse.LoginForm
import Amizone.Parse.Lemmas.Search
import Amizone.Parse.Regexp
import Amizone.Parse.Courses
import Amizone.Parse.Lemmas.Courses
import Amizone.Parse.Theorems
import Amizone.Client.Model
import Amizone.Client.Lemmas.Login
import Amizone.Client.Lemmas.Request
import Amizone.Client.Lemmas.Portal
import Amizone.Client.Lemmas.Throttle
import Amizone.Client.Feedback
import Amizone.Client.Mutex
import Amizone.Client.Lemmas.Mutex
import Amizone.Client.Lemmas.Progress
import Amizone.Client.Theorems
import Amizone.Capsolver.Client
import Amizone.Capsolver.Theorems
import Amizone.TLSClient.Profile
import Amizone.TLSClient.Theorems
