import Lumi.Domain.Scheduling
import Lumi.Domain.Revisions
import Lumi.Domain.Agreement
import Lumi.Domain.Duplicates
import Lumi.Library.CatalogRuns
import Lumi.Planner.Totality
import Lumi.Planner.Frames
import Lumi.LightPlans.Choices
import Lumi.LightPlans.Recency
import Lumi.LightPlans.Retries
import Lumi.Engine.Started
import Lumi.Engine.LinkRelay
import Lumi.Engine.History
import Lumi.Engine.Completions
import Lumi.Engine.Launch
import Lumi.Engine.Rejections
import Lumi.ProLink.Agreement
import Lumi.ProLink.Ingress
import Lumi.LocalPlayback.Agreement
import Lumi.Rekordbox.Phrases
import Lumi.Rekordbox.Safety
import Lumi.Gateway.Persistence
import Lumi.Gateway.Delivery
import Lumi.Library.Beats
import Lumi.Library.Inverses
import Lumi.Library.Merge
import Lumi.Stream
