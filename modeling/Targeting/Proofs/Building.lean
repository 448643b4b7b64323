import Targeting.Proofs.LastWrites
import Targeting.Proofs.NormalRequests

/-!
# What a built request holds

Of the calls that write one name the last one counts (`lastOf`). Names of headers are one name
when they differ in case only.
-/

namespace Targeting.Request

variable {r : Request}

-- ---------------------------------------------------------------------------
-- One call
-- ---------------------------------------------------------------------------

namespace Call

/-- The value that the call gives to the header, whatever the spelling of its name. -/
def header? (name : String) : Call → Option String
  | .header written value => if Text.sameIgnoringCase written name then some value else none
  | .host value => if Text.sameIgnoringCase "host" name then some value else none
  | .userAgent value => if Text.sameIgnoringCase "user-agent" name then some value else none
  | _ => none

def cookie? (name : String) : Call → Option String
  | .cookie written value => if written = name then some value else none
  | _ => none

def param? (name : String) : Call → Option String
  | .param written value => if written = name then some value else none
  | _ => none

def asksForCookies : Call → Bool
  | .cookie _ _ | .emptyCookies => true
  | _ => false

end Call

theorem headers_withHeader (r : Request) (written value name : String) :
    (r.withHeader written value).headers.get? (Text.lowerAscii name) =
      (if Text.sameIgnoringCase written name then some value else none).or
        (r.headers.get? (Text.lowerAscii name)) := by
  rw [withHeader, Assoc.get?_put]
  by_cases h : Text.lowerAscii name = Text.lowerAscii written
  · simp [Text.sameIgnoringCase, h]
  · simp [Text.sameIgnoringCase, h, Ne.symm h]

theorem headers_apply (r : Request) (call : Call) (name : String) :
    (r.apply call).headers.get? (Text.lowerAscii name) =
      (call.header? name).or (r.headers.get? (Text.lowerAscii name)) := by
  cases call with
  | header written value => exact headers_withHeader r written value name
  | host value => exact headers_withHeader r "host" value name
  | userAgent value => exact headers_withHeader r "user-agent" value name
  | _ => rfl

theorem cookies_apply (r : Request) (call : Call) (name : String) :
    ((r.apply call).cookies.getD []).get? name =
      (call.cookie? name).or (Assoc.get? (r.cookies.getD []) name) := by
  cases call with
  | cookie written value =>
    show (Assoc.put _ written value).get? name = _
    by_cases h : written = name
    · simp [Assoc.get?_put, Call.cookie?, h]
    · simp [Assoc.get?_put, Call.cookie?, h, Ne.symm h]
  | _ => rfl

theorem params_apply (r : Request) (call : Call) (name : String) :
    (r.apply call).params.get? name = (call.param? name).or (r.params.get? name) := by
  cases call with
  | param written value =>
    show (Assoc.put _ written value).get? name = _
    by_cases h : written = name
    · simp [Assoc.get?_put, Call.param?, h]
    · simp [Assoc.get?_put, Call.param?, h, Ne.symm h]
  | _ => rfl

theorem hasCookieTable_apply (r : Request) (call : Call) :
    (r.apply call).hasCookieTable = (call.asksForCookies || r.hasCookieTable) := by
  cases call <;> rfl

-- ---------------------------------------------------------------------------
-- All calls
-- ---------------------------------------------------------------------------

theorem headers_build (calls : List Call) (name : String) :
    (build calls).headers.get? (Text.lowerAscii name) = lastOf (Call.header? name) calls :=
  (found_foldl (fun r => r.headers.get? (Text.lowerAscii name)) (headers_apply · · name) calls
    empty).trans Option.or_none

theorem cookies_build (calls : List Call) (name : String) :
    Assoc.get? ((build calls).cookies.getD []) name = lastOf (Call.cookie? name) calls :=
  (found_foldl (fun r => Assoc.get? (r.cookies.getD []) name) (cookies_apply · · name) calls
    empty).trans Option.or_none

theorem params_build (calls : List Call) (name : String) :
    (build calls).params.get? name = lastOf (Call.param? name) calls :=
  (found_foldl (fun r => r.params.get? name) (params_apply · · name) calls empty).trans
    Option.or_none

theorem hasCookieTable_build (calls : List Call) :
    (build calls).hasCookieTable = calls.any Call.asksForCookies := by
  have hfold (r : Request) : (calls.foldl apply r).hasCookieTable =
      (calls.any Call.asksForCookies || r.hasCookieTable) := by
    induction calls generalizing r with
    | nil => rfl
    | cons call rest ih =>
      rw [List.foldl_cons, ih, hasCookieTable_apply, List.any_cons, Bool.or_left_comm,
        ← Bool.or_assoc]
  exact (hfold empty).trans (Bool.or_false _)

-- ---------------------------------------------------------------------------
-- Accessors
-- ---------------------------------------------------------------------------

theorem Tidy.loweredHeaders (h : r.Tidy) : r.loweredHeaders = r.headers := by
  have hkey : ∀ key ∈ r.headers.keys, Text.lowerAscii key = key :=
    List.map_inj_left.mp (h.lowered.trans (List.map_id _).symm)
  refine (List.map_congr_left fun entry hentry => ?_).trans (List.map_id _)
  exact congrArg (·, entry.2) (hkey entry.1 (List.mem_map_of_mem hentry))

theorem Tidy.header (h : r.Tidy) (name : String) :
    r.header name = filled (r.headers.get? (Text.lowerAscii name)) := by
  rw [header_lowered, h.loweredHeaders]

/-- No two names of headers are one name. -/
theorem Distinct.pairwise (h : r.Distinct) :
    r.headers.keys.Pairwise fun a b => Text.sameIgnoringCase a b = false :=
  (List.pairwise_map.mp h.headers).imp fun hne => decide_eq_false hne

/-- Then it does not matter in which order the headers are looked through. -/
theorem Distinct.header_perm (h : r.Distinct) {headers : Assoc String}
    (hperm : headers.Perm r.headers) (name : String) :
    { r with headers }.header name = r.header name := by
  have hlowered : ({ r with headers } : Request).loweredHeaders.Perm r.loweredHeaders := hperm.map _
  have hnodup : r.loweredHeaders.keys.Nodup := by rw [loweredHeaders_keys]; exact h.headers
  rw [header_lowered, header_lowered, Assoc.get?_perm hlowered.symm hnodup]

-- ---------------------------------------------------------------------------
-- What is found
-- ---------------------------------------------------------------------------

/-- What a built request holds under a name is what the last call with that name gave it, if
that is not empty: an earlier value is never found. The names of its headers are distinct up to
case, so it does not matter in which order they are kept. It has a cookie table if some call
asked for one, and to ask for an empty one takes no cookie away. -/
theorem build_reads_last (calls : List Call) :
    (build calls).headers.keys.Pairwise (fun a b => Text.sameIgnoringCase a b = false) ∧
      (∀ headers : Assoc String, headers.Perm (build calls).headers → ∀ name,
        { build calls with headers }.header name = (build calls).header name) ∧
      (∀ name, (build calls).header name = filled (lastOf (Call.header? name) calls)) ∧
      (∀ name, (build calls).cookie name = filled (lastOf (Call.cookie? name) calls)) ∧
      (∀ name, (build calls).param name = filled (lastOf (Call.param? name) calls)) ∧
      ((build calls).hasCookieTable = true ↔
        (∃ name value, Call.cookie name value ∈ calls) ∨ Call.emptyCookies ∈ calls) ∧
      ∀ before after, calls = before ++ .emptyCookies :: after →
        ∀ name, (build calls).cookie name = (build (before ++ after)).cookie name := by
  have htidy := build_tidy calls
  refine ⟨htidy.pairwise, fun _ hperm => htidy.header_perm hperm, fun name => ?_,
    fun name => ?_, fun name => ?_, ?_, ?_⟩
  · rw [htidy.header, headers_build]
  · rw [cookie_eq, cookies_build]
  · rw [param, params_build]
  · rw [hasCookieTable_build, List.any_eq_true]
    constructor
    · rintro ⟨call, hmem, hasks⟩
      cases call with
      | cookie name value => exact .inl ⟨name, value, hmem⟩
      | emptyCookies => exact .inr hmem
      | _ => cases hasks
    · rintro (⟨name, value, hmem⟩ | hmem)
      · exact ⟨_, hmem, rfl⟩
      · exact ⟨_, hmem, rfl⟩
  · rintro before after rfl name
    rw [cookie_eq, cookie_eq, cookies_build, cookies_build, lastOf_append, lastOf_append,
      lastOf_cons]
    simp [Call.cookie?]

def visit : List Call :=
  [.header "Accept-Language" "en", .host "a.example", .cookie "plan" "free", .emptyCookies,
    .header "ACCEPT-LANGUAGE" "", .cookie "plan" "pro", .param "page" "2", .param "Page" "3"]

theorem build_reads_last_visit :
    { build visit with headers := [("accept-language", ""), ("host", "a.example")].reverse }.header
        "host" = (build visit).header "host" ∧
      (build visit).header "Host" = some "a.example" ∧
      (build visit).header "accept-language" = none ∧
      (build visit).cookie "plan" = some "pro" ∧
      (build visit).param "page" = some "2" ∧
      (build visit).hasCookieTable = true ∧
      (build visit).cookie "plan" = (build (visit.eraseIdx 3)).cookie "plan" := by
  obtain ⟨-, hperm, hheader, hcookie, hparam, htable, hasked⟩ := build_reads_last visit
  refine ⟨hperm _ (List.reverse_perm _) "host", ?_, ?_, ?_, ?_, ?_, ?_⟩
  · rw [hheader]
    decide
  · rw [hheader]
    decide
  · rw [hcookie]
    decide
  · rw [hparam]
    decide
  · exact htable.mpr (.inl ⟨"plan", "free", by simp [visit]⟩)
  · exact hasked (visit.take 3) (visit.drop 4) rfl "plan"

end Targeting.Request
