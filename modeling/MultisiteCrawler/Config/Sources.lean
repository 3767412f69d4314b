import MultisiteCrawler.Foundation.PythonErrors
import MultisiteCrawler.Foundation.PythonText

/-!
# Source configuration

The part of the validated configuration which the scheduler reads.  A
configuration is built only after its validators have accepted it, so the
validators are fields.
-/

namespace MultisiteCrawler.Config

open Foundation.PythonErrors
open Foundation.PythonText

/-- Supported source transport modes. -/
inductive SourceMode where
  | polling
  | rss
  | websocket
  | sse
deriving DecidableEq, Repr

/-- Worker queue categories. -/
inductive QueueName where
  | http
  | browser
deriving DecidableEq, Repr

/-- `SourceConfig.reject_blank_text`. -/
def rejectBlankText (value : String) : Except PyError String :=
  if strip value = "" then .error (.value "must not be blank")
  else .ok value

/-- Configuration of a single source. -/
structure SourceConfig where
  id : String
  name : String
  enabled : Bool
  mode : SourceMode
  intervalSeconds : ℤ
  queue : QueueName
  id_length : 1 ≤ id.length
  name_length : 1 ≤ name.length
  intervalSeconds_ge : 60 ≤ intervalSeconds
  id_accepted : rejectBlankText id = .ok id
  name_accepted : rejectBlankText name = .ok name

/-- `CrawlerConfig.validate_unique_source_ids`. -/
def validateUniqueSourceIds (sources : List SourceConfig) :
    Except PyError (List SourceConfig) :=
  if (sources.map SourceConfig.id).length ≠
      (sources.map SourceConfig.id).dedup.length
  then .error (.value "duplicate source id")
  else .ok sources

/-- Root configuration of all enabled and disabled sources. -/
structure CrawlerConfig where
  sources : List SourceConfig
  sources_length : 1 ≤ sources.length
  sources_accepted : validateUniqueSourceIds sources = .ok sources

/-- The source ids of an accepted configuration are distinct. -/
theorem CrawlerConfig.nodup_ids (config : CrawlerConfig) :
    (config.sources.map SourceConfig.id).Nodup := by
  have accepted := config.sources_accepted
  unfold validateUniqueSourceIds at accepted
  split_ifs at accepted with duplicate
  rw [not_not] at duplicate
  rw [← List.dedup_eq_self]
  exact (List.dedup_sublist _).eq_of_length duplicate.symm

end MultisiteCrawler.Config
