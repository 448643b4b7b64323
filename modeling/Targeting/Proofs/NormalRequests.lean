import Targeting.Proofs.ReadSets
import Targeting.Registry.Stock
import Targeting.Request.Builder

/-!
# Normal forms of requests

A request may spell the name of a header in many ways, hold empty texts for missing ones
and have a browser id of any length. Its normal form (`Request.normal`) does not, and every
accessor finds the same in both. So no tree tells them apart (`evaluate_normal`). Of headers
whose names differ in case only the first is found, before and after.
-/

namespace Targeting

-- ---------------------------------------------------------------------------
-- Tables of texts
-- ---------------------------------------------------------------------------

namespace Assoc

variable {table : Assoc String}

def withoutEmpty (table : Assoc String) : Assoc String :=
  table.filter fun entry => (filled (table.get? entry.1)).isSome

theorem filled_get?_withoutEmpty (table : Assoc String) (key : String) :
    filled (table.withoutEmpty.get? key) = filled (table.get? key) := by
  rw [withoutEmpty, get?_filter fun key => (filled (table.get? key)).isSome]
  cases h : filled (table.get? key) with
  | none => rfl
  | some text => exact h

theorem withoutEmpty_of_nodup (h : table.keys.Nodup) :
    table.withoutEmpty = table.filter (·.2 ≠ "") := by
  refine List.filter_congr fun entry hentry => ?_
  rw [get?_of_mem h hentry]
  by_cases hempty : entry.2 = "" <;> simp [filled, hempty]

end Assoc

-- ---------------------------------------------------------------------------
-- Requests
-- ---------------------------------------------------------------------------

namespace Request

variable {r : Request}

def loweredHeaders (r : Request) : Assoc String :=
  r.headers.map fun h => (Text.lowerAscii h.1, h.2)

/-- Names of headers in lower case, nothing empty, and of the browser id only what makes
the bucket. -/
def normal (r : Request) : Request where
  headers := r.loweredHeaders.withoutEmpty
  url := filled r.url
  cookies := some (Assoc.withoutEmpty (r.cookies.getD []))
  params := r.params.withoutEmpty
  connectionAddr := filled r.connectionAddr
  socketAddr := filled r.socketAddr
  tunnelAddr := filled r.tunnelAddr
  bid := (filled r.bid).map fun bid => .ofList (Bucket.lastTwo bid.toList)

/-- No two names of headers differ in case only, and no table holds a key twice. -/
structure Distinct (r : Request) : Prop where
  headers : (r.headers.keys.map Text.lowerAscii).Nodup
  cookies : (Assoc.keys (r.cookies.getD [])).Nodup
  params : r.params.keys.Nodup

theorem loweredHeaders_keys (r : Request) :
    r.loweredHeaders.keys = r.headers.keys.map Text.lowerAscii := by
  simp [loweredHeaders, Assoc.keys]

/-- What is left out of the tables are then the entries with empty texts. -/
theorem normal_of_distinct (h : r.Distinct) :
    r.normal.headers = r.loweredHeaders.filter (·.2 ≠ "") ∧
      r.normal.cookies = some ((r.cookies.getD []).filter (·.2 ≠ "")) ∧
      r.normal.params = r.params.filter (·.2 ≠ "") := by
  have hheaders : r.loweredHeaders.keys.Nodup := by rw [loweredHeaders_keys]; exact h.headers
  exact ⟨Assoc.withoutEmpty_of_nodup hheaders,
    congrArg some (Assoc.withoutEmpty_of_nodup h.cookies), Assoc.withoutEmpty_of_nodup h.params⟩

-- ---------------------------------------------------------------------------
-- Requests that are built call by call
-- ---------------------------------------------------------------------------

structure Tidy (r : Request) : Prop extends r.Distinct where
  lowered : r.headers.keys.map Text.lowerAscii = r.headers.keys

theorem empty_tidy : empty.Tidy := ⟨⟨.nil, .nil, .nil⟩, rfl⟩

theorem withHeader_tidy (h : r.Tidy) (name value : String) : (r.withHeader name value).Tidy := by
  have hnodup : r.headers.keys.Nodup := h.lowered ▸ h.headers
  have hlowered : (r.withHeader name value).headers.keys.map Text.lowerAscii =
      (r.withHeader name value).headers.keys := by
    simp only [withHeader, Assoc.keys_put]
    split
    · exact h.lowered
    · rw [List.map_append, h.lowered, List.map_singleton, Text.lowerAscii_lowerAscii]
  refine ⟨⟨?_, h.cookies, h.params⟩, hlowered⟩
  rw [hlowered]
  exact Assoc.nodup_put hnodup

theorem apply_tidy (h : r.Tidy) (call : Call) : (r.apply call).Tidy := by
  cases call with
  | header name value => exact withHeader_tidy h name value
  | host value => exact withHeader_tidy h "host" value
  | userAgent value => exact withHeader_tidy h "user-agent" value
  | cookie name value =>
    exact ⟨⟨h.headers, Assoc.nodup_put h.cookies, h.params⟩, h.lowered⟩
  | param name value =>
    exact ⟨⟨h.headers, h.cookies, Assoc.nodup_put h.params⟩, h.lowered⟩
  | url _ | emptyCookies | connectionAddr _ | socketAddr _ | tunnelAddr _ | bid _ =>
    exact ⟨⟨h.headers, h.cookies, h.params⟩, h.lowered⟩

/-- Whatever the spelling of the names in the calls. -/
theorem build_tidy (calls : List Call) : (build calls).Tidy :=
  List.foldlRecOn calls apply empty_tidy fun _ h call _ => apply_tidy h call

-- ---------------------------------------------------------------------------
-- Accessors
-- ---------------------------------------------------------------------------

theorem header_lowered (r : Request) (name : String) :
    r.header name = filled (r.loweredHeaders.get? (Text.lowerAscii name)) := by
  rw [header, loweredHeaders]
  congr 1
  induction r.headers with
  | nil => rfl
  | cons h rest ih =>
    rw [List.map_cons, Assoc.get?_cons, List.find?_cons, ← ih]
    by_cases hname : Text.lowerAscii h.1 = Text.lowerAscii name
    · simp [Text.sameIgnoringCase, hname]
    · simp [Text.sameIgnoringCase, hname, Ne.symm hname]

theorem cookie_eq (r : Request) (name : String) :
    r.cookie name = filled (Assoc.get? (r.cookies.getD []) name) := by
  rw [cookie]
  cases r.cookies <;> rfl

theorem loweredHeaders_normal (r : Request) : r.normal.loweredHeaders = r.normal.headers := by
  refine (List.map_congr_left fun entry hentry => ?_).trans (List.map_id _)
  obtain ⟨h, -, rfl⟩ := List.mem_map.mp (List.mem_filter.mp hentry).1
  simp [Text.lowerAscii_lowerAscii]

theorem header_normal (r : Request) (name : String) : r.normal.header name = r.header name := by
  rw [header_lowered, header_lowered, loweredHeaders_normal]
  exact Assoc.filled_get?_withoutEmpty ..

theorem host_normal (r : Request) : r.normal.host = r.host := header_normal ..

theorem userAgent_normal (r : Request) : r.normal.userAgent = r.userAgent := header_normal ..

theorem path_normal (r : Request) : r.normal.path = r.path := filled_filled _

theorem param_normal (r : Request) (name : String) : r.normal.param name = r.param name :=
  Assoc.filled_get?_withoutEmpty ..

theorem cookie_normal (r : Request) (name : String) : r.normal.cookie name = r.cookie name := by
  rw [cookie_eq, cookie_eq]
  exact Assoc.filled_get?_withoutEmpty ..

theorem remoteAddr_normal (r : Request) : r.normal.remoteAddr = r.remoteAddr := by
  simp only [remoteAddr, normal, filled_filled]

end Request

-- ---------------------------------------------------------------------------
-- Registered rules
-- ---------------------------------------------------------------------------

/-- The answer goes by the host and the cookies of a request. -/
def CustomRule.ReadsHostAndCookies (custom : CustomRule) : Prop :=
  ∀ (raw : Json) (r r' : Request), r.host = r'.host → (∀ name, r.cookie name = r'.cookie name) →
    custom raw r = custom raw r'

theorem StockRule.run_readsHostAndCookies (rule : StockRule) :
    rule.run.ReadsHostAndCookies := by
  intro raw r r' hhost hcookie
  cases rule <;> simp only [run, hhost, hcookie]

-- ---------------------------------------------------------------------------
-- Trees
-- ---------------------------------------------------------------------------

namespace Engine

variable {e : Engine}

theorem ofBid_lastTwo (bid : String) :
    Bucket.ofBid (.ofList (Bucket.lastTwo bid.toList)) = Bucket.ofBid bid := by
  rw [Bucket.ofBid, Bucket.ofBid, String.toList_ofList, Bucket.lastTwo_lastTwo]

/-- An empty browser id gives no bucket, like none. -/
theorem bucketOf_normal (r : Request) : bucketOf r.normal = bucketOf r := by
  rw [bucketOf, bucketOf, Request.normal]
  cases r.bid with
  | none => rfl
  | some bid =>
    by_cases hempty : bid = ""
    · have hnone : Bucket.ofBid "" = none := rfl
      simp [filled, hempty, hnone]
    · have hfilled : filled (some bid) = some bid := by simp [filled, Option.filter, hempty]
      simp only [hfilled, Option.map_some, Option.bind_some, ofBid_lastTwo]

theorem address_normal (e : Engine) (r : Request) : e.address r.normal = e.address r := by
  simp only [address, forwarded, Request.param_normal, Request.header_normal,
    Request.remoteAddr_normal]

theorem sameReads_normal (e : Engine) (r : Request) (c : Condition) :
    e.SameReads r.normal e r c := by
  cases c with
  | host _ => exact Request.host_normal r
  | path _ => exact Request.path_normal r
  | agent _ => exact Request.userAgent_normal r
  | bucket _ => exact bucketOf_normal r
  | cookie _ => exact fun c _ => Request.cookie_normal r c.name
  | visitor _ => exact Request.cookie_normal r _
  | device _ => exact ⟨Request.userAgent_normal r, fun _ _ => rfl⟩
  | geoip _ => exact ⟨address_normal e r, fun _ _ => rfl⟩

/-- No tree tells a request from its normal form, as long as the registered rules go by the
host and the cookies, as the stock rules do. If no two names of headers differ in case only,
the tables of the normal form are those of the request, with names of headers in lower case,
without the entries that are empty. -/
theorem evaluate_normal :
    (∀ rule : StockRule, rule.run.ReadsHostAndCookies) ∧
      (∀ r : Request, r.Distinct →
        r.normal.headers = r.loweredHeaders.filter (·.2 ≠ "") ∧
          r.normal.cookies = some ((r.cookies.getD []).filter (·.2 ≠ "")) ∧
          r.normal.params = r.params.filter (·.2 ≠ "")) ∧
      ∀ e : Engine, (∀ entry ∈ e.registry, entry.2.ReadsHostAndCookies) →
        ∀ (t : Tree) (r : Request) (s : State),
          (e.evaluate (some t) r.normal s).quiet = (e.evaluate (some t) r s).quiet := by
  refine ⟨StockRule.run_readsHostAndCookies, fun _ => Request.normal_of_distinct,
    fun e hrules t r s => ?_⟩
  refine evaluate_quiet_congr (.refl e) (fun _ _ c _ => sameReads_normal e r c) ?_ s
  intro rule _ custom hmeaning
  have hentry := Assoc.mem_of_get? (Registry.get?_of_meaning hmeaning)
  exact hrules _ hentry rule.raw _ _ (Request.host_normal r) (Request.cookie_normal r)

def planner : Engine :=
  { locator with registry := .register .empty "weather" (StockRule.run (.cookie "plan")) }

def unkempt : Request where
  headers := [("Host", "a.example"), ("X-Forwarded-For", "")]
  url := some ""
  cookies := some [("plan", "pro"), ("bid", "")]
  params := [("splitterIP", "")]
  connectionAddr := some ""
  socketAddr := some "192.0.2.1"
  tunnelAddr := none
  bid := some "00004d"

theorem evaluate_normal_unkempt :
    unkempt.Distinct ∧
      unkempt.normal.headers = unkempt.loweredHeaders.filter (·.2 ≠ "") ∧
      unkempt.normal = ⟨[("host", "a.example")], none, some [("plan", "pro")], [], none,
        some "192.0.2.1", none, some "4d"⟩ ∧
      (∀ entry ∈ planner.registry, entry.2.ReadsHostAndCookies) ∧
      (planner.evaluate (some visitorTree) unkempt.normal .fresh).quiet =
        (planner.evaluate (some visitorTree) unkempt .fresh).quiet ∧
      (planner.evaluate (some visitorTree) unkempt .fresh).matched = true := by
  obtain ⟨hstock, hnormal, hevaluate⟩ := evaluate_normal
  have hdistinct : unkempt.Distinct := ⟨by decide, by decide, by decide⟩
  have hrules : ∀ entry ∈ planner.registry, entry.2.ReadsHostAndCookies :=
    List.forall_mem_singleton.mpr (hstock (.cookie "plan"))
  exact ⟨hdistinct, (hnormal _ hdistinct).1, rfl, hrules,
    hevaluate planner hrules visitorTree unkempt .fresh, rfl⟩

end Engine

end Targeting
