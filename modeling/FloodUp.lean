import FloodUp.Async.Run
import FloodUp.Async.Solo
import FloodUp.Text.Search
import FloodUp.Publish.Coherence
import FloodUp.Publish.Images
import FloodUp.Publish.Report
import FloodUp.Publish.Uploads
import FloodUp.Map.RoundTrip
import FloodUp.Map.Loads
import FloodUp.Map.Replies
import FloodUp.Map.Filter
import FloodUp.Map.Legible
import FloodUp.Account.Validation
import FloodUp.Account.Guests
import FloodUp.System.Navigator
import FloodUp.System.Storage
import FloodUp.System.Attribution
import FloodUp.System.Camera
import FloodUp.System.Seen
import FloodUp.System.Removed
import FloodUp.System.Told
import FloodUp.System.Names
import FloodUp.System.Completion
