/-
  Sift.Document.Settings — settings described in JSON. What a document leaves out is standard, and
  the moment of the search is that of the clock.
-/

import Sift.Document.Record
import Sift.Settings

namespace Sift.Document

def readDateOrder (json : Json) : Option DateOrder :=
  match readBareCase json with
  | some "month_first" => some .monthFirst
  | some "day_first" => some .dayFirst
  | some "year_first" => some .yearFirst
  | _ => none

/-- A moment, or `null` for that of the clock. -/
def readNow (clock : Instant) : Json → Option Instant
  | .null => some clock
  | json => (readString json).bind Instant.read

def readTextField (json : Json) : Option TextField := (readBareCase json).bind TextField.ofName

def readSettings (clock : Instant) (json : Json) : Option Settings := do
  let r ← record ["time_zone_offset_minutes", "date_locale", "now", "mountpoint_depth_limit",
    "default_text_field"] json
  let standard := Settings.standard clock
  return {
    offsetMinutes :=
      ← r.optional "time_zone_offset_minutes" standard.offsetMinutes (readSigned 32)
    dateOrder := ← r.optional "date_locale" standard.dateOrder readDateOrder
    now := ← r.optional "now" standard.now (readNow clock)
    mountpointLimit :=
      ← r.optional "mountpoint_depth_limit" standard.mountpointLimit (readUnsigned 64)
    defaultField := ← r.optional "default_text_field" standard.defaultField readTextField }

end Sift.Document
