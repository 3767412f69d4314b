import MultisiteCrawler.Adapters.Hashing
import MultisiteCrawler.Foundation.PythonText

/-!
# Adapter results

What a source adapter hands over for persistence.  Items are built through
their validator, unless an adapter makes one without it; that their data is
JSON-compatible is checked later, by the adapter runner.
-/

namespace MultisiteCrawler.Adapters

open Foundation.PythonErrors
open Foundation.PythonText

/-- Raw source response and optional HTTP validators. -/
structure FetchResult where
  body : ByteArray
  etag : Option String := none
  lastModified : Option String := none

/-- `CrawlItem.reject_blank_external_id`. -/
def rejectBlankExternalId (value : String) : Except PyError String :=
  if strip value = "" then .error (.value "external_id must not be blank")
  else .ok value

/-- The fields of an item, which need not have been validated. -/
structure ItemFields where
  externalId : String
  data : BusinessData

/-- Source-neutral business data ready for persistence. -/
structure CrawlItem extends ItemFields where
  externalId_length : 1 ≤ externalId.length
  externalId_accepted : rejectBlankExternalId externalId = .ok externalId

/-- A completed adapter collection with response metadata. -/
structure AdapterResult where
  response : FetchResult
  items : List ItemFields
  rawResponseHash : String

/-- The fingerprint of every item can be computed. -/
def AdapterResult.Compatible (result : AdapterResult) : Prop :=
  ∀ item ∈ result.items, JsonCompatible item.data

end MultisiteCrawler.Adapters
