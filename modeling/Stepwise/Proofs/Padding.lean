import Stepwise.Proofs.Coupling
import Stepwise.Proofs.Scopes

/-!
# Arenas that differ by an empty scope

Two arenas have the same records, but in the second one an empty scope stands inside one of the scopes, between it and
all that the first one has inside of it. Then every handle that comes after is one higher, and to look from the scope
itself in the first arena is to look from the empty scope in the second. Nothing can be told from the empty scope: what
is looked up from corresponding handles is the same, and what is assigned, declared, opened and closed leaves arenas
that differ in the same way.

Arenas that do not differ at all are included, so that two runs can be compared while one of them opens such a scope
and closes it again.
-/

namespace Stepwise

set_option autoImplicit false

/-- Where the second of two arenas has an empty scope that the first one has not: nowhere, or inside a scope. -/
inductive ScopeGap
  | closed
  | inside (scope : Nat)

namespace ScopeGap

/-- The handle from which the second arena is looked at as the first one is from this handle. -/
def place : ScopeGap → Nat → Nat
  | closed, handle => handle
  | inside scope, handle => if handle < scope then handle else handle + 1

/-- The handle under which the second arena has the record that the first one has under this handle. -/
def home : ScopeGap → Nat → Nat
  | closed, handle => handle
  | inside scope, handle => if handle ≤ scope then handle else handle + 1

def Fits (gap : ScopeGap) (size : Nat) : Prop :=
  ∀ scope, gap = inside scope → 0 < scope ∧ scope < size

variable {gap : ScopeGap} {size : Nat}

theorem place_eq_home {handle : Nat} (apart : gap ≠ inside handle) : gap.place handle = gap.home handle := by
  cases gap with
  | closed => rfl
  | inside scope =>
      have other : scope ≠ handle := fun same => apart (congrArg inside same)
      simp only [place, home]
      split <;> split <;> omega

theorem place_lt_place {one two : Nat} (less : one < two) : gap.place one < gap.place two := by
  cases gap with
  | closed => exact less
  | inside scope =>
      simp only [place]
      split <;> split <;> omega

theorem place_lt_home {one two : Nat} (less : one < two) : gap.place one < gap.home two := by
  cases gap with
  | closed => exact less
  | inside scope =>
      simp only [place, home]
      split <;> split <;> omega

theorem place_of_lt {scope handle : Nat} (less : handle < scope) : (inside scope).place handle = handle :=
  if_pos less

theorem place_succ (gap : ScopeGap) (fits : gap.Fits size) : gap.place (size + 1) = gap.place size + 1 := by
  cases gap with
  | closed => rfl
  | inside scope =>
      obtain ⟨-, within⟩ := fits scope rfl
      simp only [place, if_neg (by omega : ¬size + 1 < scope), if_neg (by omega : ¬size < scope)]

theorem place_size (fits : gap.Fits size) : gap.place size = gap.home size := by
  refine place_eq_home fun same => ?_
  obtain ⟨-, within⟩ := fits size same
  omega

theorem place_global (fits : gap.Fits size) : gap.place globalScope = globalScope := by
  cases gap with
  | closed => rfl
  | inside scope => exact if_pos (fits scope rfl).1

theorem home_inj {one two : Nat} : gap.home one = gap.home two ↔ one = two := by
  cases gap with
  | closed => exact Iff.rfl
  | inside scope =>
      simp only [home]
      split <;> split <;> omega

theorem home_ne (scope handle : Nat) : (inside scope).home handle ≠ scope + 1 := by
  simp only [home]
  split <;> omega

theorem Fits.mono {larger : Nat} (fits : gap.Fits size) (grows : size ≤ larger) : gap.Fits larger :=
  fun scope same => ⟨(fits scope same).1, Nat.lt_of_lt_of_le (fits scope same).2 grows⟩

theorem fits_closed (size : Nat) : closed.Fits size := nofun

end ScopeGap

def Scope.placed (gap : ScopeGap) (scope : Scope) : Scope :=
  { scope with parent := scope.parent.map gap.place }

namespace Scope

variable {gap : ScopeGap} {scope : Scope}

theorem find?_placed (name : String) : (scope.placed gap).find? name = scope.find? name := rfl

theorem isSome_find?_placed (scope : Scope) {name : String} :
    ((scope.placed gap).find? name).isSome ↔ (scope.find? name).isSome := Iff.rfl

end Scope

namespace Scopes

theorem ext_get? {one two : Scopes} (same : ∀ handle, one.get? handle = two.get? handle) : one = two := by
  obtain ⟨records⟩ := one
  obtain ⟨others⟩ := two
  congr 1
  exact Array.ext_getElem? same

/-- The second arena is the first one with an empty scope where the gap says. -/
structure Padded (gap : ScopeGap) (one two : Scopes) : Prop where
  fits : gap.Fits one.size
  size : two.size = gap.place one.size
  kept : ∀ handle, two.get? (gap.home handle) = (one.get? handle).map (Scope.placed gap)
  empty : ∀ scope, gap = .inside scope → two.get? (scope + 1) = some { parent := some scope, bindings := [] }

namespace Padded

variable {gap : ScopeGap} {one two : Scopes}

theorem refl (scopes : Scopes) : Padded .closed scopes scopes where
  fits := ScopeGap.fits_closed _
  size := rfl
  kept handle := by
    have same : Scope.placed .closed = id := by
      funext scope
      obtain ⟨parent, bindings⟩ := scope
      cases parent <;> rfl
    rw [same, Option.map_id]
    rfl
  empty := nofun

theorem eq_of_closed (padded : Padded .closed one two) : two = one := by
  exact ext_get? fun handle => (padded.kept handle).trans ((refl one).kept handle).symm

section Resolution

variable (padded : Padded gap one two)
include padded

theorem get?_place_of_none {handle : Nat} (absent : one.get? handle = none) : two.get? (gap.place handle) = none := by
  have apart : gap ≠ .inside handle := by
    intro same
    have present := get?_isSome.mpr (padded.fits handle same).2
    rw [absent] at present
    cases present
  rw [ScopeGap.place_eq_home apart, padded.kept, absent]
  rfl

/-- The walk outwards from corresponding scopes ends at the same record. -/
theorem resolveWithin (nested : one.Nested) (name : String) {handle bound other : Nat} (enough : handle < bound)
    (alsoEnough : gap.place handle < other) :
    two.resolveWithin name other (gap.place handle) = (one.resolveWithin name bound handle).map gap.home := by
  induction handle using Nat.strongRecOn generalizing bound other with
  | ind handle ih =>
      obtain ⟨less, rfl⟩ : ∃ less, bound = less + 1 := ⟨bound - 1, by omega⟩
      obtain ⟨rest, rfl⟩ : ∃ rest, other = rest + 1 := ⟨other - 1, by omega⟩
      cases found : one.get? handle with
      | none =>
          simp only [Scopes.resolveWithin, found, padded.get?_place_of_none found]
          rfl
      | some scope =>
          have there := padded.kept handle
          rw [found, Option.map_some] at there
          have fromRecord : ∀ rest, gap.home handle < rest + 1 →
              two.resolveWithin name (rest + 1) (gap.home handle) =
                (one.resolveWithin name (less + 1) handle).map gap.home := by
            intro rest room
            simp only [Scopes.resolveWithin, found, there]
            by_cases binds : (scope.find? name).isSome
            · rw [if_pos binds, if_pos (scope.isSome_find?_placed.mpr binds)]
              rfl
            · rw [if_neg binds, if_neg (mt scope.isSome_find?_placed.mp binds)]
              cases around : scope.parent with
              | none =>
                  simp only [Scope.placed, around, Option.map_none]
                  rfl
              | some parent =>
                  have older := nested handle scope parent found around
                  have placed : gap.place parent < gap.home handle := ScopeGap.place_lt_home older
                  simp only [Scope.placed, around, Option.map_some]
                  exact ih parent older (by omega) (by omega)
          by_cases at_ : gap = .inside handle
          · -- From the empty scope the walk goes on to the one around it.
            subst at_
            have home : (ScopeGap.inside handle).home handle = handle := if_pos (Nat.le_refl _)
            have place : (ScopeGap.inside handle).place handle = handle + 1 := if_neg (Nat.lt_irrefl _)
            rw [place] at alsoEnough ⊢
            obtain ⟨last, rfl⟩ : ∃ last, rest = last + 1 := ⟨rest - 1, by omega⟩
            have onwards := fromRecord last (by omega)
            rw [home] at onwards
            rw [← onwards, Scopes.resolveWithin, padded.empty handle rfl]
            rfl
          · rw [ScopeGap.place_eq_home at_] at alsoEnough ⊢
            exact fromRecord rest alsoEnough

theorem resolve (nested : one.Nested) (handle : Nat) (name : String) :
    two.resolve (gap.place handle) name = (one.resolve handle name).map gap.home := by
  by_cases inside : handle < one.size
  · have placed : gap.place handle < two.size := by
      rw [padded.size]
      exact ScopeGap.place_lt_place inside
    exact padded.resolveWithin nested name (by omega) (by omega)
  · have absent := get?_eq_none (Nat.le_of_not_lt inside)
    simp only [Scopes.resolve, Scopes.resolveWithin, absent, padded.get?_place_of_none absent]
    rfl

theorem binding (nested : one.Nested) (handle : Nat) (name : String) :
    two.binding (gap.place handle) name =
      (one.binding handle name).map fun (owner, scope, found) => (gap.home owner, scope.placed gap, found) := by
  simp only [Scopes.binding, padded.resolve nested]
  cases one.resolve handle name with
  | error failure => rfl
  | ok owner =>
      simp only [Except.map, padded.kept]
      cases one.get? owner with
      | none => rfl
      | some scope =>
          simp only [Option.map_some, Scope.find?_placed]
          cases scope.find? name <;> rfl

theorem lookup (nested : one.Nested) (handle : Nat) (name : String) :
    two.lookup (gap.place handle) name = one.lookup handle name := by
  simp only [Scopes.lookup, padded.binding nested]
  cases one.binding handle name <;> rfl

theorem replaced {handle : Nat} (scope : Scope) :
    Padded gap (one.replaced handle scope) (two.replaced (gap.home handle) (scope.placed gap)) where
  fits := by
    rw [size_replaced]
    exact padded.fits
  size := by
    rw [size_replaced, size_replaced]
    exact padded.size
  kept other := by
    have within : gap.home other < two.size ↔ other < one.size := by
      rw [← get?_isSome, ← get?_isSome, padded.kept, Option.isSome_map]
    simp only [get?_replaced, ScopeGap.home_inj, within, padded.kept]
    split
    · split <;> rfl
    · rfl
  empty scope same := by
    subst same
    rw [get?_replaced, if_neg (ScopeGap.home_ne scope handle), padded.empty scope rfl]

theorem assign (nested : one.Nested) (handle : Nat) (name : String) (value : Value) :
    Coupling.Rescopes (Padded gap) (one.assign handle name value) (two.assign (gap.place handle) name value) := by
  simp only [Scopes.assign, padded.binding nested]
  cases one.binding handle name with
  | error failure => exact .failed failure
  | ok bound =>
      obtain ⟨owner, scope, found⟩ := bound
      simp only [Except.map]
      cases value.coerce found.typeName with
      | error failure => exact .failed failure
      | ok stored => exact .changed (padded.replaced (scope.store name stored))

theorem declare {handle : Nat} (apart : gap ≠ .inside handle) (name : String) (value : Value)
    (typeName : Option String) :
    Coupling.Rescopes (Padded gap) (one.declare handle name value typeName)
      (two.declare (gap.place handle) name value typeName) := by
  simp only [Scopes.declare, ScopeGap.place_eq_home apart, padded.kept]
  cases one.get? handle with
  | none => exact .failed _
  | some scope =>
      simp only [Option.map_some]
      by_cases binds : (scope.find? name).isSome
      · rw [if_pos binds, if_pos (scope.isSome_find?_placed.mpr binds)]
        exact .failed _
      · rw [if_neg binds, if_neg (mt scope.isSome_find?_placed.mp binds)]
        cases value.coerce typeName with
        | error failure => exact .failed failure
        | ok stored => exact .changed (padded.replaced (scope.bind _))

theorem opened (parent : Nat) :
    Padded gap (one.opened (some parent)) (two.opened (some (gap.place parent))) where
  fits := by
    rw [size_opened]
    exact padded.fits.mono (Nat.le_succ _)
  size := by
    rw [size_opened, size_opened, ScopeGap.place_succ gap padded.fits, padded.size]
  kept handle := by
    simp only [get?_opened, padded.size, ScopeGap.place_size padded.fits, ScopeGap.home_inj, padded.kept]
    split <;> rfl
  empty scope same := by
    have newest : scope + 1 ≠ two.size := by
      subst same
      rw [padded.size, ScopeGap.place_size padded.fits]
      exact (ScopeGap.home_ne scope one.size).symm
    rw [get?_opened, if_neg newest, padded.empty scope same]

theorem released {handle : Nat} (fits : gap.Fits handle) :
    Padded gap (one.released handle) (two.released (gap.place handle)) := by
  by_cases newest : handle + 1 = one.size
  · have newestTwo : gap.place handle + 1 = two.size := by
      rw [padded.size, ← newest, ScopeGap.place_succ gap fits]
    refine ⟨?_, ?_, fun other => ?_, fun scope same => ?_⟩
    · rw [size_released_of_newest one handle newest]
      exact fits
    · rw [size_released_of_newest one handle newest, size_released_of_newest two _ newestTwo]
    · rw [get?_released_of_newest one handle _ newest, get?_released_of_newest two _ _ newestTwo, ScopeGap.place_size fits]
      simp only [ScopeGap.home_inj, padded.kept]
      split <;> rfl
    · have other : scope + 1 ≠ gap.place handle := by
        subst same
        rw [ScopeGap.place_size fits]
        exact (ScopeGap.home_ne scope handle).symm
      rw [get?_released_of_newest two _ _ newestTwo, if_neg other, padded.empty scope same]
  · have newestTwo : gap.place handle + 1 ≠ two.size := by
      rw [padded.size, ← ScopeGap.place_succ gap fits]
      intro same
      rcases Nat.lt_trichotomy (handle + 1) one.size with less | equal | more
      · exact absurd same (Nat.ne_of_lt (ScopeGap.place_lt_place less))
      · exact newest equal
      · exact absurd same (Nat.ne_of_gt (ScopeGap.place_lt_place more))
    rw [Scopes.released, if_neg newest, Scopes.released, if_neg newestTwo]
    exact padded

end Resolution

theorem map_placed {scopes : Scopes} (nested : scopes.Nested) {newest handle : Nat} (below : handle ≤ newest) :
    (scopes.get? handle).map (Scope.placed (.inside newest)) = scopes.get? handle := by
  cases found : scopes.get? handle with
  | none => rfl
  | some scope =>
      obtain ⟨parent, bindings⟩ := scope
      cases parent with
      | none => rfl
      | some parent =>
          have older := nested handle _ parent found rfl
          have placed : (ScopeGap.inside newest).place parent = parent := ScopeGap.place_of_lt (by omega)
          simp only [Scope.placed, Option.map_some, placed]

/-- An empty scope is opened in the second arena only, inside the newest one; nothing is inside of that yet. -/
theorem open_gap {scopes : Scopes} (nested : scopes.Nested) {newest : Nat} (global : 0 < newest)
    (size : newest + 1 = scopes.size) : Padded (.inside newest) scopes (scopes.opened (some newest)) where
  fits scope same := by
    cases same
    omega
  size := by
    rw [size_opened]
    exact (if_neg (by omega)).symm
  kept handle := by
    by_cases below : handle ≤ newest
    · have home : (ScopeGap.inside newest).home handle = handle := if_pos below
      rw [home, get?_opened, if_neg (by omega), map_placed nested below]
    · have home : (ScopeGap.inside newest).home handle = handle + 1 := if_neg below
      rw [home, get?_opened, if_neg (by omega), get?_eq_none (by omega), get?_eq_none (by omega)]
      rfl
  empty scope same := by
    cases same
    rw [get?_opened, if_pos size]

/-- When the empty scope is the newest, closing it leaves the first arena. -/
theorem close_gap {one two : Scopes} {newest : Nat} (padded : Padded (.inside newest) one two) (nested : one.Nested)
    (size : newest + 1 = one.size) : two.released (newest + 1) = one := by
  have sizeTwo : newest + 1 + 1 = two.size := by
    rw [padded.size, ← size]
    exact (if_neg (by omega)).symm
  refine ext_get? fun handle => ?_
  rw [get?_released_of_newest two _ _ sizeTwo]
  by_cases below : handle ≤ newest
  · have home : (ScopeGap.inside newest).home handle = handle := if_pos below
    have kept := padded.kept handle
    rw [home, map_placed nested below] at kept
    rw [if_neg (by omega), kept]
  · rw [get?_eq_none (by omega : one.size ≤ handle)]
    split
    · rfl
    · exact get?_eq_none (by omega)

end Padded

end Scopes

end Stepwise
