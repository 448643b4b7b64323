import Mathlib.Data.Set.Lattice
import Targeting.Proofs.Bucketing
import Targeting.Proofs.SingleConditions

/-!
# Cohorts

A bucket condition asks for a bucket in the union of its ranges (`Bucket.covered`). So lists of
ranges that between them cover every bucket once (`Bucket.IsSplit`) put every request that has
a bucket into one cohort, by the last two characters of the browser id, and a request without
one into none (`ask_split`). Either way the browser id has to be sent along.
-/

namespace Targeting

namespace Bucket

-- ---------------------------------------------------------------------------
-- Ranges
-- ---------------------------------------------------------------------------

/-- The union of the ranges as closed intervals. -/
def covered (ranges : List Range) : Set ℤ :=
  ⋃ range ∈ ranges, {b | range.min ≤ b ∧ b ≤ range.max}

/-- Of every bucket there may be, exactly one of the lists asks for it. -/
structure IsSplit {ι : Type} (cohorts : ι → List Range) : Prop where
  nonempty : ∀ i, cohorts i ≠ []
  unique : ∀ b : ℤ, 0 ≤ b → b ≤ 100 → ∃! i, b ∈ covered (cohorts i)

theorem mem_covered {ranges : List Range} {b : ℤ} :
    b ∈ covered ranges ↔ ∃ range ∈ ranges, range.min ≤ b ∧ b ≤ range.max := by
  simp only [covered, Set.mem_iUnion, Set.mem_ofPred_eq, exists_prop]

theorem any_contains {ranges : List Range} {b : Nat} :
    (ranges.any fun range => range.contains b) = true ↔ (b : ℤ) ∈ covered ranges := by
  simp [mem_covered, Range.contains]

theorem ofBid_le {bid : String} {b : Nat} (h : ofBid bid = some b) : b ≤ 100 := by
  obtain ⟨-, rfl⟩ := ofBid_eq_some.mp h
  exact scale_le (value_le bid)

theorem ofBid_congr {bid other : String} (h : lastTwo bid.toList = lastTwo other.toList) :
    ofBid bid = ofBid other := by
  rw [ofBid, ofBid, h]

theorem IsSplit.of_bucket {ι : Type} {cohorts : ι → List Range} (h : IsSplit cohorts)
    {bid : String} {b : Nat} (hb : ofBid bid = some b) : ∃! i, (b : ℤ) ∈ covered (cohorts i) :=
  h.unique b (Int.natCast_nonneg b) (by exact_mod_cast ofBid_le hb)

-- ---------------------------------------------------------------------------
-- Ranges in JSON
-- ---------------------------------------------------------------------------

structure Range.IsWord (range : Range) : Prop where
  min : Decimal.fitsWord range.min = true
  max : Decimal.fitsWord range.max = true

def Range.toJson (range : Range) : Json :=
  .object [("min", .integer range.min), ("max", .integer range.max)]

theorem decode_toJson {range : Range} (h : range.IsWord) :
    Range.shape.decode range.toJson = .ok (range.min, range.max, ()) := by
  simp [Range.shape, Range.layout, Range.toJson, Shape.decode, Layout.check, Layout.collect,
    Assoc.get?_cons, h.min, h.max, Except.map, bind, Except.bind, pure, Except.pure]

theorem compile_toJson {ranges : List Range} (h : ∀ range ∈ ranges, range.IsWord) :
    Condition.compile .bucket (.array (ranges.map Range.toJson)) = .ok (.bucket ranges) := by
  have hrecords : (ranges.map Range.toJson).mapM
      (Condition.record .bucket Range.shape Range.ofContent) = .ok ranges := by
    induction ranges with
    | nil => rfl
    | cons range rest ih =>
      obtain ⟨hrange, hrest⟩ := List.forall_mem_cons.mp h
      rw [List.map_cons, List.mapM_cons, ih hrest, Condition.record, decode_toJson hrange]
      rfl
  exact congrArg (Except.map Condition.bucket) hrecords

end Bucket

namespace Engine

variable {e : Engine} {r : Request} {ranges : List Bucket.Range}

-- ---------------------------------------------------------------------------
-- Requests
-- ---------------------------------------------------------------------------

theorem ask_bucket (hname : "bucket" ∉ e.registry.names) (hranges : ranges ≠ []) (raw : Json) :
    (e.ask r (.bucket ranges) raw).matched = true ↔
      ∃ bid b, r.bid = some bid ∧ Bucket.ofBid bid = some b ∧ (b : ℤ) ∈ Bucket.covered ranges := by
  rw [ask_matched hname, holds, List.isEmpty_eq_false_iff.mpr hranges, Bool.false_or,
    Option.any_eq_true]
  simp only [Bucket.any_contains, findings, bucketOf, Option.bind_eq_some_iff]
  constructor
  · rintro ⟨b, ⟨bid, hbid, hb⟩, hcovered⟩
    exact ⟨bid, b, hbid, hb, hcovered⟩
  · rintro ⟨bid, b, hbid, hb, hcovered⟩
    exact ⟨b, ⟨bid, hbid, hb⟩, hcovered⟩

theorem ask_bucket_emitBid (hname : "bucket" ∉ e.registry.names) (hranges : ranges ≠ [])
    (raw : Json) : (e.ask r (.bucket ranges) raw).state.emitBid = true := by
  obtain ⟨range, rest, rfl⟩ := List.exists_cons_of_ne_nil hranges
  rw [ask_emitBid hname]
  rfl

/-- Of the browser id only the last two characters matter. -/
theorem ask_bucket_congr {e' : Engine} {r' : Request} (hname : "bucket" ∉ e.registry.names)
    (hname' : "bucket" ∉ e'.registry.names) {bid bid' : String} (hbid : r.bid = some bid)
    (hbid' : r'.bid = some bid')
    (hlast : Bucket.lastTwo bid.toList = Bucket.lastTwo bid'.toList) (raw raw' : Json) :
    (e.ask r (.bucket ranges) raw).matched = (e'.ask r' (.bucket ranges) raw').matched := by
  have hbucket : bucketOf r = bucketOf r' := by
    rw [bucketOf, bucketOf, hbid, hbid']
    exact Bucket.ofBid_congr hlast
  rw [ask_matched hname, ask_matched hname']
  simp only [holds, findings, hbucket]

/-- A list with ranges is for the requests that have a bucket, and have it in the union of the
ranges. Of lists that split the buckets, a request that has one is for exactly one, the same
for all whose browser ids end with the same two characters, and a request that has none is for
none of them. Whoever asks has the browser id sent along. -/
theorem ask_split :
    (∀ (e : Engine) (r : Request) (ranges : List Bucket.Range) (raw : Json),
      "bucket" ∉ e.registry.names → ranges ≠ [] →
        ((e.ask r (.bucket ranges) raw).matched = true ↔
          ∃ bid b, r.bid = some bid ∧ Bucket.ofBid bid = some b ∧
            (b : ℤ) ∈ Bucket.covered ranges) ∧
        (e.ask r (.bucket ranges) raw).state.emitBid = true) ∧
    (∀ (ι : Type) (cohorts : ι → List Bucket.Range), Bucket.IsSplit cohorts →
      ∀ (e : Engine) (r : Request) (raw : ι → Json), "bucket" ∉ e.registry.names →
        (∀ bid b, r.bid = some bid → Bucket.ofBid bid = some b →
          ∃! i, (e.ask r (.bucket (cohorts i)) (raw i)).matched = true) ∧
        ((∀ bid, r.bid = some bid → Bucket.ofBid bid = none) →
          ∀ i, (e.ask r (.bucket (cohorts i)) (raw i)).matched = false) ∧
        ∀ i, (e.ask r (.bucket (cohorts i)) (raw i)).state.emitBid = true) ∧
    (∀ (e e' : Engine) (r r' : Request) (bid bid' : String), "bucket" ∉ e.registry.names →
      "bucket" ∉ e'.registry.names → r.bid = some bid → r'.bid = some bid' →
        Bucket.lastTwo bid.toList = Bucket.lastTwo bid'.toList →
          ∀ (ranges : List Bucket.Range) (raw raw' : Json),
            (e.ask r (.bucket ranges) raw).matched = (e'.ask r' (.bucket ranges) raw').matched) ∧
    ∀ (e : Engine) (ranges : List Bucket.Range), "bucket" ∉ e.registry.names →
      (∀ range ∈ ranges, range.IsWord) →
        e.compile (.object [("bucket", .array (ranges.map Bucket.Range.toJson))]) =
          .ok ((Condition.bucket ranges).alone (.array (ranges.map Bucket.Range.toJson))) := by
  refine ⟨?_, ?_, ?_, ?_⟩
  · intro e r ranges raw hname hranges
    exact ⟨ask_bucket hname hranges raw, ask_bucket_emitBid hname hranges raw⟩
  · intro ι cohorts hsplit e r raw hname
    have hmatched := fun i => ask_bucket (r := r) hname (hsplit.nonempty i) (raw i)
    refine ⟨?_, ?_, fun i => ask_bucket_emitBid hname (hsplit.nonempty i) (raw i)⟩
    · intro bid b hbid hb
      have hiff : ∀ i, (e.ask r (.bucket (cohorts i)) (raw i)).matched = true ↔
          (b : ℤ) ∈ Bucket.covered (cohorts i) := by
        intro i
        rw [hmatched, hbid]
        simp [hb]
      simpa only [hiff] using hsplit.of_bucket hb
    · intro hnone i
      rw [Bool.eq_false_iff, Ne, hmatched]
      rintro ⟨bid, b, hbid, hb, -⟩
      rw [hnone bid hbid] at hb
      cases hb
  · intro e e' r r' bid bid' hname hname' hbid hbid' hlast ranges raw raw'
    exact ask_bucket_congr hname hname' hbid hbid' hlast raw raw'
  · intro e ranges hname hranges
    exact Tree.compile_single .bucket hname (Bucket.compile_toJson hranges)

def pages : Bool → List Bucket.Range
  | false => [⟨-1, 49⟩]
  | true => [⟨50, 70⟩, ⟨60, 200⟩, ⟨20, 10⟩]

theorem pages_isSplit : Bucket.IsSplit pages := by
  refine ⟨fun page => by cases page <;> decide, fun b hlow hhigh => ?_⟩
  have hcovered : ∀ page, b ∈ Bucket.covered (pages page) ↔ page = decide (50 ≤ b) := by
    intro page
    cases page <;> simp [Bucket.mem_covered, pages] <;> omega
  simp [hcovered]

theorem ask_split_pages :
    "bucket" ∉ initial.registry.names ∧ Bucket.IsSplit pages ∧ pages true ≠ [] ∧
      visitor.bid = some "4d" ∧ Bucket.ofBid "4d" = some 30 ∧
      (initial.ask visitor (.bucket (pages false)) .null).matched = true ∧
      (initial.ask visitor (.bucket (pages false)) .null).state.emitBid = true ∧
      (∃! page, (initial.ask visitor (.bucket (pages page)) .null).matched = true) ∧
      Bucket.lastTwo "4d".toList = Bucket.lastTwo "visitor-4d".toList ∧
      (initial.ask visitor (.bucket (pages false)) .null).matched =
        (locator.ask { visitor with bid := some "visitor-4d" } (.bucket (pages false))
          .null).matched ∧
      (∀ bid, Request.empty.bid = some bid → Bucket.ofBid bid = none) ∧
      (initial.ask .empty (.bucket (pages true)) .null).matched = false ∧
      (∀ range ∈ pages true, range.IsWord) ∧
      initial.compile (.object [("bucket", .array ((pages true).map Bucket.Range.toJson))]) =
        .ok ((Condition.bucket (pages true)).alone
          (.array ((pages true).map Bucket.Range.toJson))) := by
  obtain ⟨hranges, hsplit, hlast, hcompile⟩ := ask_split
  have hname : "bucket" ∉ initial.registry.names := by decide
  have hname' : "bucket" ∉ locator.registry.names := by decide
  have hbucket : Bucket.ofBid "4d" = some 30 := by decide
  have hsame : Bucket.lastTwo "4d".toList = Bucket.lastTwo "visitor-4d".toList := by decide
  have hnone : ∀ bid, Request.empty.bid = some bid → Bucket.ofBid bid = none := nofun
  have hwords : ∀ range ∈ pages true, range.IsWord := by
    intro range hrange
    simp only [pages, List.mem_cons, List.not_mem_nil, or_false] at hrange
    rcases hrange with rfl | rfl | rfl <;> exact ⟨by decide, by decide⟩
  obtain ⟨hiff, hemit⟩ :=
    hranges initial visitor (pages false) .null hname (pages_isSplit.nonempty false)
  obtain ⟨hone, -, -⟩ := hsplit Bool pages pages_isSplit initial visitor (fun _ => .null) hname
  obtain ⟨-, hnobody, -⟩ := hsplit Bool pages pages_isSplit initial .empty (fun _ => .null) hname
  refine ⟨hname, pages_isSplit, pages_isSplit.nonempty true, rfl, hbucket, ?_, hemit,
    hone "4d" 30 rfl hbucket, hsame, ?_, hnone, hnobody hnone true, hwords,
    hcompile initial (pages true) hname hwords⟩
  · refine hiff.mpr ⟨"4d", 30, rfl, hbucket, ?_⟩
    rw [Bucket.mem_covered]
    exact ⟨⟨-1, 49⟩, by simp [pages], by decide⟩
  · exact hlast initial locator visitor _ _ _ hname hname' rfl rfl hsame (pages false) .null .null

end Engine

end Targeting
