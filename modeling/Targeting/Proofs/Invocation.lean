import Targeting.Command.Arguments
import Targeting.Proofs.Compilation

/-!
# Command lines

A command line that gives each switch once, with values that are not taken for switches, is
understood whatever the order and the spelling (`parse_written`). While it is scanned the last
value may still wait to be taken up; what is given and what waits are always the switches
written so far (`Scan.Holds`).
-/

namespace Targeting.Command

structure Given where
  switch : Switch
  value : String
  /-- Written as one argument, with `=` between the two. -/
  attached : Bool

namespace Given

def written (g : Given) : List String :=
  if g.attached then ["--" ++ g.switch.name ++ "=" ++ g.value]
  else ["--" ++ g.switch.name, g.value]

def pair (g : Given) : Switch × String := (g.switch, g.value)

/-- The value is there, and no argument of its own that looks like a switch. -/
structure Legible (g : Given) : Prop where
  valued : g.switch ≠ .help
  nonempty : g.value ≠ ""
  apart : g.attached = false → g.value.toList.head? = some '-' → g.value = "-"

end Given

namespace Arguments

def valueOf (line : List Given) (switch : Switch) : Option String :=
  (line.map Given.pair).lookup switch

/-- The line gives each switch once, and says what the arguments say. The variable stands in
for the configuration directory, and the default for both. -/
structure Spells (line : List Given) (environment : Assoc String) (a : Arguments) : Prop where
  legible : ∀ g ∈ line, g.Legible
  once : (line.map Given.switch).Nodup
  criteria : valueOf line .criteria = some a.criteria
  request : valueOf line .request = some a.request
  geo : valueOf line .geo = a.geo
  configDir : ((valueOf line .configDir).or (environment.get? configVariable)).getD configDefault =
    a.configDir
  nonempty : a.configDir ≠ ""

-- ---------------------------------------------------------------------------
-- Scanning
-- ---------------------------------------------------------------------------

namespace Scan

/-- The switches written so far are those that were taken up and then the one that waits. -/
inductive Holds : Scan → List (Switch × String) → Prop
  | settled (pairs : List (Switch × String)) : Holds ⟨pairs, none, false⟩ pairs
  | waiting (pairs : List (Switch × String)) (switch : Switch) (value : String) :
    Holds ⟨pairs, some (switch, some value), false⟩ (pairs ++ [(switch, value)])

variable {s : Scan} {pairs : List (Switch × String)}

theorem add_eq {waiting : Option (Switch × Option String)} {closed : Bool} {switch : Switch}
    {value : String} (hnew : switch ∉ pairs.map (·.1)) (hvalue : value ≠ "") :
    (⟨pairs, waiting, closed⟩ : Scan).add switch value =
      .ok ⟨pairs ++ [(switch, value)], none, closed⟩ := by
  rw [add, used, if_neg hnew, if_neg hvalue]

structure Sound (pairs : List (Switch × String)) : Prop where
  once : (pairs.map (·.1)).Nodup
  nonempty : ∀ p ∈ pairs, p.2 ≠ ""

theorem Sound.of_append {more : List (Switch × String)} (h : Sound (pairs ++ more)) :
    Sound pairs := by
  obtain ⟨honce, hnonempty⟩ := h
  rw [List.map_append, List.nodup_append] at honce
  exact ⟨honce.1, (List.forall_mem_append.mp hnonempty).1⟩

theorem Sound.last {p : Switch × String} (h : Sound (pairs ++ [p])) :
    p.1 ∉ pairs.map (·.1) ∧ p.2 ≠ "" := by
  obtain ⟨honce, hnonempty⟩ := h
  rw [List.map_append, List.map_singleton, List.nodup_append] at honce
  refine ⟨?_, hnonempty p (List.mem_append_right _ List.mem_cons_self)⟩
  exact fun hmem => honce.2.2 _ hmem _ List.mem_cons_self rfl

theorem Holds.settle (h : s.Holds pairs) (hsound : Sound pairs) :
    s.settle = .ok ⟨pairs, none, false⟩ := by
  cases h with
  | settled => rfl
  | waiting pairs switch value =>
    obtain ⟨hnew, hvalue⟩ := hsound.last
    exact add_eq hnew hvalue

theorem name_chars (switch : Switch) :
    switch.name.toList ≠ [] ∧ switch.name.toList.takeWhile (· ≠ '=') = switch.name.toList := by
  cases switch <;> decide

theorem step_switch (h : s.closed = false) (switch : Switch) :
    s.step ("--" ++ switch.name) = s.long switch.name none := by
  rw [step, h, if_neg Bool.false_ne_true]
  cases switch <;> rfl

theorem step_attached (h : s.closed = false) (switch : Switch) (value : String) :
    s.step ("--" ++ switch.name ++ "=" ++ value) = s.long switch.name (some value) := by
  obtain ⟨hne, hname⟩ := name_chars switch
  have hchars : ("--" ++ switch.name ++ "=" ++ value).toList =
      '-' :: '-' :: (switch.name.toList ++ '=' :: value.toList) := by simp
  have htaken : (switch.name.toList ++ '=' :: value.toList).takeWhile (· ≠ '=') =
      switch.name.toList := by
    rw [List.takeWhile_append, hname, if_pos rfl, List.takeWhile_cons_of_neg (by decide),
      List.append_nil]
  rw [step, h, if_neg Bool.false_ne_true, hchars]
  split
  · next heq => simp [hne] at heq
  · next rest _ heq =>
    cases heq
    simp only [htaken, List.drop_left, String.ofList_toList]
  · next hnot heq =>
    cases heq
    exact absurd rfl hnot
  · next hnot _ => exact absurd rfl (hnot _)

theorem step_value (h : s.closed = false) {value : String}
    (hvalue : value.toList.head? = some '-' → value = "-") : s.step value = s.value value := by
  rw [step, h, if_neg Bool.false_ne_true]
  by_cases hdash : value.toList.head? = some '-'
  · rw [hvalue hdash]
    rfl
  · split
    · next heq => exact absurd (by rw [heq]; rfl) hdash
    · next heq => exact absurd (by rw [heq]; rfl) hdash
    · next heq => exact absurd (by rw [heq]; rfl) hdash
    · rfl

theorem long_attached {switch : Switch} (hswitch : switch ≠ .help) (value : String) :
    s.long switch.name (some value) = s.settle >>= fun s => s.add switch value := by
  cases switch with
  | help => contradiction
  | _ => rfl

theorem long_apart {switch : Switch} (hswitch : switch ≠ .help) :
    s.long switch.name none =
      s.settle >>= fun s => .ok { s with waiting := some (switch, none) } := by
  cases switch with
  | help => contradiction
  | _ => rfl

theorem Holds.closed (h : s.Holds pairs) : s.closed = false := by
  cases h <;> rfl

/-- A switch with its value is taken up at once, or waits with it. -/
theorem Holds.step {g : Given} (h : s.Holds pairs) (hg : g.Legible)
    (hsound : Sound (pairs ++ [g.pair])) :
    ∃ s', g.written.foldlM Scan.step s = .ok s' ∧ s'.Holds (pairs ++ [g.pair]) := by
  obtain ⟨hnew, hvalue⟩ := hsound.last
  have hsettle := h.settle hsound.of_append
  rw [Given.written]
  cases hattached : g.attached with
  | true =>
    refine ⟨_, ?_, .settled _⟩
    rw [if_pos rfl, List.foldlM_cons, step_attached h.closed, long_attached hg.valued]
    exact bind_ok.mpr ⟨_, bind_ok.mpr ⟨_, hsettle, add_eq hnew hvalue⟩, rfl⟩
  | false =>
    refine ⟨_, ?_, .waiting pairs g.switch g.value⟩
    rw [if_neg Bool.false_ne_true, List.foldlM_cons, step_switch h.closed, long_apart hg.valued]
    refine bind_ok.mpr ⟨_, bind_ok.mpr ⟨_, hsettle, rfl⟩, ?_⟩
    rw [List.foldlM_cons, step_value rfl (hg.apart hattached)]
    rfl

theorem Holds.run {line : List Given} (h : s.Holds pairs) (hline : ∀ g ∈ line, g.Legible)
    (hsound : Sound (pairs ++ line.map Given.pair)) :
    ∃ s', (line.flatMap Given.written).foldlM Scan.step s = .ok s' ∧
      s'.Holds (pairs ++ line.map Given.pair) := by
  induction line generalizing s pairs with
  | nil => exact ⟨s, rfl, by simpa using h⟩
  | cons g line ih =>
    obtain ⟨hg, hrest⟩ := List.forall_mem_cons.mp hline
    have hsplit : pairs ++ (g :: line).map Given.pair =
        pairs ++ [g.pair] ++ line.map Given.pair := by simp
    rw [hsplit] at hsound ⊢
    obtain ⟨between, hstep, hbetween⟩ := h.step hg hsound.of_append
    obtain ⟨s', hrun, hs'⟩ := ih hbetween hrest hsound
    refine ⟨s', ?_, hs'⟩
    rw [List.flatMap_cons, List.foldlM_append]
    exact bind_ok.mpr ⟨between, hstep, hrun⟩

end Scan

theorem lookup_eq_none {pairs : List (Switch × String)} {switch : Switch} :
    pairs.lookup switch = none ↔ switch ∉ pairs.map (·.1) := by
  rw [List.lookup_eq_none_iff, List.mem_map]
  constructor
  · rintro h ⟨p, hp, rfl⟩
    exact absurd (h p hp) (by simp)
  · intro h p hp
    simpa using fun heq => h ⟨p, hp, heq.symm⟩

/-- The variable is one more value, if there is none on the line. -/
theorem withVariable_ok {environment : Assoc String} {a : Arguments}
    {pairs : List (Switch × String)}
    (hdir : ((pairs.lookup .configDir).or (environment.get? configVariable)).getD configDefault =
      a.configDir) (hnonempty : a.configDir ≠ "") :
    ∃ given, withVariable environment ⟨pairs, none, false⟩ = .ok ⟨given, none, false⟩ ∧
      (∀ switch, switch ≠ .configDir → given.lookup switch = pairs.lookup switch) ∧
      (given.lookup .configDir).getD configDefault = a.configDir := by
  rw [withVariable]
  cases hlookup : pairs.lookup .configDir with
  | some written =>
    have hused : Switch.configDir ∈ pairs.map (·.1) := by
      refine Decidable.byContradiction fun hnew => ?_
      rw [lookup_eq_none.mpr hnew] at hlookup
      cases hlookup
    refine ⟨pairs, ?_, fun _ _ => rfl, by simpa [hlookup] using hdir⟩
    cases environment.get? configVariable with
    | none => rfl
    | some value => exact if_pos hused
  | none =>
    rw [hlookup, Option.none_or] at hdir
    cases hvariable : environment.get? configVariable with
    | none => exact ⟨pairs, rfl, fun _ _ => rfl, by simpa [hlookup, hvariable] using hdir⟩
    | some value =>
      rw [hvariable, Option.getD_some] at hdir
      have hnew := lookup_eq_none.mp hlookup
      refine ⟨_, (if_neg hnew).trans (Scan.add_eq hnew (hdir ▸ hnonempty)), fun switch hne => ?_, ?_⟩
      · have hother : (switch == .configDir) = false := beq_false_of_ne hne
        simp [List.lookup_append, List.lookup_cons, hother]
      · simp [List.lookup_append, hlookup, hdir]

theorem parse_written {line : List Given} {environment : Assoc String} {a : Arguments}
    (h : Spells line environment a) :
    parse (line.flatMap Given.written) environment = .ok a := by
  have hsound : Scan.Sound (line.map Given.pair) := by
    refine ⟨by simpa [Given.pair, Function.comp_def] using h.once, ?_⟩
    exact List.forall_mem_map.mpr fun g hg => (h.legible g hg).nonempty
  obtain ⟨s, hrun, hholds⟩ := Scan.Holds.run (.settled []) h.legible hsound
  obtain ⟨given, hvariable, hothers, hdir⟩ := withVariable_ok h.configDir h.nonempty
  rw [parse]
  refine bind_ok.mpr ⟨s, hrun, bind_ok.mpr ⟨_, hholds.settle hsound, ?_⟩⟩
  refine bind_ok.mpr ⟨_, hvariable, ?_⟩
  have hcriteria := (hothers .criteria nofun).trans h.criteria
  have hrequest := (hothers .request nofun).trans h.request
  have hgeo := (hothers .geo nofun).trans h.geo
  simp only [ofScan, hcriteria, hrequest, hgeo, hdir]

end Arguments

end Targeting.Command
