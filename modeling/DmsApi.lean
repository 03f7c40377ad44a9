import DmsApi.Go.Strings
import DmsApi.Go.Runtime
import DmsApi.Go.Strconv
import DmsApi.Go.Path
import DmsApi.Catabalancer.Codec
import DmsApi.Catabalancer.Refresh
import DmsApi.Catabalancer.Select
import DmsApi.Catabalancer.Balancer
import DmsApi.Catabalancer.Clocked
import DmsApi.CatalystBalancer.Balancer
import DmsApi.CatalystBalancer.Membership
import DmsApi.CatalystBalancer.Events
import DmsApi.CatalystBalancer.Commute
import DmsApi.CatalystBalancer.Redelivery
import DmsApi.CatalystBalancer.Select
import DmsApi.Thumbnails.Vtt
import DmsApi.Thumbnails.Generate
import DmsApi.MistTriggers.LiveTrackList
import DmsApi.MistTriggers.Workaround
import DmsApi.Crypto.Decrypt
import DmsApi.Transcode.Segment
import DmsApi.Handlers.Payload
import DmsApi.Handlers.UploadVOD
import DmsApi.Handlers.Events
