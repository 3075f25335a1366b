import Blazer.Errors
import Blazer.Http
import Blazer.Session
import Blazer.Download
import Blazer.Failures
import Blazer.FinalBytes
import Blazer.LargeFile
import Blazer.Concurrent
import Blazer.BucketRevision
import Blazer.Retry
import Blazer.Advice
import Blazer.Logging
import Blazer.Stamps
import Blazer.FileInfo
import Blazer.Authorize
