import Stepwise.Template

/-!
# Templates piece by piece

A template is scanned once from left to right. What the scan has made of the front of a template does not depend on
what comes behind it, unless the front ends where a directive may still be completed: on a percent sign that began
none, with nothing behind it but a point and digits. Arguments are taken in order, one for each directive that shows
one; so the pieces of a template can be shown one by one, each by the number of arguments taken before it.
-/

namespace Stepwise

set_option autoImplicit false

namespace Template

def Piece.consumes : Piece → Bool
  | plain _ => false
  | directive _ conversion => conversion.consumes

/-- How many arguments the directives of a template take. -/
def taken (template : Text) : Nat :=
  (pieces template).countP Piece.consumes

/-- What stands behind a percent sign while the directive may still be completed: nothing, or a point and digits. -/
def Unfinished (text : Text) : Prop :=
  text = [] ∨ ∃ digits, text = dot :: digits ∧ ∀ digit ∈ digits, isPlacesDigit digit = true

/-- Scanned, the text ends in plain code points that may be the beginning of a directive. -/
def LeftOpen (text : Text) : Prop :=
  ∃ earlier rest, pieces text = earlier ++ .plain percent :: rest.map .plain ∧ Unfinished rest

/-- Whatever comes behind the text is scanned together with an unfinished directive that the text ends in. -/
def RunsOn (text : Text) : Prop :=
  ∃ (earlier : List Piece) (rest : Text), Unfinished rest ∧
    ∀ tail : Text, pieces (text ++ tail) = earlier ++ pieces (percent :: (rest ++ tail))

/-- What a piece shows where so many arguments were taken before it: of a directive that shows an argument, the next
one, and nothing if there are no more. -/
def Piece.shown (heap : Heap) (values : List Value) (before : Nat) : Piece → Except Failure Text
  | plain point => .ok [point]
  | directive _ .newline => .ok [.ofChar '\n']
  | directive _ .percent => .ok [percent]
  | directive count conversion =>
      match values[before]? with
      | some value => argument heap count conversion value
      | none => .ok []

/-- The pieces, each with the number of arguments taken before it. -/
def placed (before : Nat) : List Piece → List (Piece × Nat)
  | [] => []
  | piece :: rest => (piece, before) :: placed (before + if piece.consumes then 1 else 0) rest

theorem isPlacesDigit_percent : isPlacesDigit percent = false := by decide

theorem percent_notMem_of_unfinished {text : Text} (unfinished : Unfinished text) : percent ∉ text := by
  rcases unfinished with rfl | ⟨digits, rfl, all⟩
  · exact List.not_mem_nil
  · intro member
    rcases List.mem_cons.mp member with point | digit
    · exact absurd point (by decide)
    · have part := all percent digit
      rw [isPlacesDigit_percent] at part
      cases part

theorem pieces_of_ne {point : CodePoint} (apart : point ≠ percent) (rest : Text) :
    pieces (point :: rest) = .plain point :: pieces rest := by
  rw [pieces, if_neg apart]

theorem pieces_percent_of_some {rest : Text} {piece : Piece} {length : Nat}
    (found : directive? rest = some (piece, length)) :
    pieces (percent :: rest) = piece :: pieces (rest.drop length) := by
  rw [pieces, if_pos rfl, found]

theorem pieces_percent_of_none {rest : Text} (missing : directive? rest = none) :
    pieces (percent :: rest) = .plain percent :: pieces rest := by
  rw [pieces, if_pos rfl, missing]

theorem pieces_of_no_percent {text : Text} (plain : percent ∉ text) : pieces text = text.map .plain := by
  induction text with
  | nil => rw [pieces, List.map_nil]
  | cons point rest ih =>
      have apart : point ≠ percent := fun same => plain (same ▸ List.mem_cons_self)
      rw [pieces_of_ne apart, ih (fun member => plain (List.mem_cons_of_mem _ member)), List.map_cons]

theorem places_append {text : Text} (finished : ¬Unfinished text) (tail : Text) :
    places (text ++ tail) = places text ∧ (places text).2 < text.length := by
  cases text with
  | nil => exact absurd (.inl rfl) finished
  | cons point rest =>
      rw [List.cons_append, places, places]
      by_cases same : point = dot
      · subst same
        have short : (rest.takeWhile isPlacesDigit).length < rest.length := by
          have initial : rest.takeWhile isPlacesDigit <+: rest := List.takeWhile_prefix _
          refine Nat.lt_of_le_of_ne initial.length_le fun full => finished (.inr ⟨rest, rfl, ?_⟩)
          rw [← initial.eq_of_length full]
          exact List.all_eq_true.mp List.all_takeWhile
        rw [if_pos rfl, if_pos rfl, List.takeWhile_append, if_neg (Nat.ne_of_lt short)]
        cases digits : rest.takeWhile isPlacesDigit with
        | nil => exact ⟨rfl, Nat.zero_lt_succ _⟩
        | cons digit others =>
            rw [digits] at short
            exact ⟨rfl, Nat.succ_lt_succ short⟩
      · rw [if_neg same, if_neg same]
        exact ⟨rfl, Nat.zero_lt_succ _⟩

/-- What a percent sign begins does not depend on what comes behind a text that is no unfinished directive. -/
theorem directive?_append {text : Text} (finished : ¬Unfinished text) (tail : Text) :
    directive? (text ++ tail) = directive? text := by
  obtain ⟨same, shorter⟩ := places_append finished tail
  simp only [directive?, same]
  rw [List.drop_append_of_le_length (Nat.le_of_lt shorter)]
  cases left : text.drop (places text).2 with
  | nil => exact absurd (List.drop_eq_nil_iff.mp left) (Nat.not_le_of_lt shorter)
  | cons point others => rfl

theorem directive?_eq_some {text : Text} {piece : Piece} {length : Nat}
    (found : directive? text = some (piece, length)) :
    (∃ count conversion, piece = .directive count conversion) ∧ length ≤ text.length := by
  simp only [directive?] at found
  split at found
  · cases found
  · next point others left =>
      obtain ⟨conversion, -, same⟩ := Option.map_eq_some_iff.mp found
      obtain ⟨rfl, rfl⟩ := Prod.mk.inj same
      have bound := congrArg List.length left
      rw [List.length_drop, List.length_cons] at bound
      exact ⟨⟨_, conversion, rfl⟩, by omega⟩

theorem eq_of_pieces_eq {text other : Text} (plain : pieces text = other.map .plain) : text = other := by
  fun_induction pieces text generalizing other with
  | case1 => exact (List.map_eq_nil_iff.mp plain.symm).symm
  | case2 rest piece length found ih =>
      obtain ⟨⟨count, conversion, rfl⟩, -⟩ := directive?_eq_some found
      cases other <;> cases plain
  | case3 rest missing ih | case4 point rest apart ih =>
      cases other with
      | nil => cases plain
      | cons first others =>
          obtain ⟨same, behind⟩ := List.cons.inj plain
          cases same
          rw [ih behind]

theorem takeWhile_digits {digits : Text} (all : ∀ digit ∈ digits, isPlacesDigit digit = true) :
    digits.takeWhile isPlacesDigit = digits := by
  rw [← List.append_nil digits, List.takeWhile_append_of_pos all, List.takeWhile_nil]

theorem directive?_of_unfinished {text : Text} (unfinished : Unfinished text) : directive? text = none := by
  rcases unfinished with rfl | ⟨digits, rfl, all⟩
  · rfl
  · unfold directive?
    rw [places, if_pos rfl, takeWhile_digits all]
    cases digits with
    | nil => rfl
    | cons digit others =>
        have nothing : (dot :: digit :: others).drop ((digit :: others).length + 1) = [] :=
          List.drop_eq_nil_of_le (Nat.le_refl _)
        dsimp only [placesOf]
        rw [nothing]

theorem pieces_percent_of_unfinished {text : Text} (unfinished : Unfinished text) :
    pieces (percent :: text) = .plain percent :: text.map .plain := by
  rw [pieces_percent_of_none (directive?_of_unfinished unfinished),
    pieces_of_no_percent (percent_notMem_of_unfinished unfinished)]

/-! The steps of a scan, each whatever comes behind the text. -/

theorem pieces_of_directive {rest : Text} {piece : Piece} {length : Nat}
    (found : directive? rest = some (piece, length)) (tail : Text) :
    pieces (percent :: rest ++ tail) = piece :: pieces (rest.drop length ++ tail) := by
  have finished : ¬Unfinished rest := by
    intro unfinished
    rw [directive?_of_unfinished unfinished] at found
    cases found
  have extended : directive? (rest ++ tail) = some (piece, length) := (directive?_append finished tail).trans found
  rw [List.cons_append, pieces_percent_of_some extended, List.drop_append_of_le_length (directive?_eq_some found).2]

theorem pieces_of_percent {rest : Text} (finished : ¬Unfinished rest) (missing : directive? rest = none)
    (tail : Text) : pieces (percent :: rest ++ tail) = .plain percent :: pieces (rest ++ tail) := by
  have extended : directive? (rest ++ tail) = none := (directive?_append finished tail).trans missing
  rw [List.cons_append, pieces_percent_of_none extended]

theorem pieces_of_plain {point : CodePoint} (apart : point ≠ percent) (rest tail : Text) :
    pieces (point :: rest ++ tail) = .plain point :: pieces (rest ++ tail) :=
  pieces_of_ne apart (rest ++ tail)

section Steps

variable {piece : Piece} {text rest : Text}
  (step : ∀ tail, pieces (text ++ tail) = piece :: pieces (rest ++ tail))
include step

theorem pieces_of_step : pieces text = piece :: pieces rest := by
  have alone := step []
  rwa [List.append_nil, List.append_nil] at alone

theorem LeftOpen.cons (leftOpen : LeftOpen rest) : LeftOpen text := by
  obtain ⟨earlier, others, split, unfinished⟩ := leftOpen
  exact ⟨piece :: earlier, others, by rw [pieces_of_step step, split, List.cons_append], unfinished⟩

theorem LeftOpen.uncons (leftOpen : LeftOpen text) (later : piece = .plain percent → ¬Unfinished rest) :
    LeftOpen rest := by
  obtain ⟨earlier, others, split, unfinished⟩ := leftOpen
  rw [pieces_of_step step] at split
  cases earlier with
  | nil =>
      obtain ⟨first, same⟩ := List.cons.inj split
      rw [← eq_of_pieces_eq same] at unfinished
      exact absurd unfinished (later first)
  | cons first earlier => exact ⟨earlier, others, (List.cons.inj split).2, unfinished⟩

theorem pieces_append_of_step {tail : Text} (others : pieces (rest ++ tail) = pieces rest ++ pieces tail) :
    pieces (text ++ tail) = pieces text ++ pieces tail := by
  rw [step, others, pieces_of_step step, List.cons_append]

theorem RunsOn.cons (runsOn : RunsOn rest) : RunsOn text := by
  obtain ⟨earlier, others, unfinished, scanned⟩ := runsOn
  exact ⟨piece :: earlier, others, unfinished, fun tail => by rw [step, scanned, List.cons_append]⟩

end Steps

/-- A text that is not left open is scanned as it would be alone. -/
theorem pieces_append {text : Text} (closed : ¬LeftOpen text) (tail : Text) :
    pieces (text ++ tail) = pieces text ++ pieces tail := by
  induction text using pieces.induct with
  | case1 =>
      rw [pieces]
      rfl
  | case2 rest piece length found ih =>
      have step := pieces_of_directive found
      exact pieces_append_of_step step (ih fun leftOpen => closed (leftOpen.cons step))
  | case3 rest missing ih =>
      by_cases unfinished : Unfinished rest
      · exact absurd ⟨[], rest, pieces_percent_of_unfinished unfinished, unfinished⟩ closed
      · have step := pieces_of_percent unfinished missing
        exact pieces_append_of_step step (ih fun leftOpen => closed (leftOpen.cons step))
  | case4 point rest apart ih =>
      have step := pieces_of_plain apart rest
      exact pieces_append_of_step step (ih fun leftOpen => closed (leftOpen.cons step))

theorem LeftOpen.runsOn {text : Text} (leftOpen : LeftOpen text) : RunsOn text := by
  induction text using pieces.induct with
  | case1 =>
      obtain ⟨earlier, rest, split, -⟩ := leftOpen
      rw [pieces] at split
      cases earlier <;> cases split
  | case2 rest piece length found ih =>
      have step := pieces_of_directive found
      refine RunsOn.cons step (ih (leftOpen.uncons step fun plain => ?_))
      obtain ⟨⟨count, conversion, rfl⟩, -⟩ := directive?_eq_some found
      cases plain
  | case3 rest missing ih =>
      by_cases unfinished : Unfinished rest
      · exact ⟨[], rest, unfinished, fun tail => rfl⟩
      · have step := pieces_of_percent unfinished missing
        exact RunsOn.cons step (ih (leftOpen.uncons step fun _ => unfinished))
  | case4 point rest apart ih =>
      have step := pieces_of_plain apart rest
      exact RunsOn.cons step (ih (leftOpen.uncons step fun plain => absurd (Piece.plain.inj plain) apart))

theorem pieces_of_whole {text : Text} {piece : Piece} (length : Nat)
    (found : directive? text = some (piece, length)) (nothing : text.drop length = []) :
    pieces (percent :: text) = [piece] := by
  rw [pieces_percent_of_some found, nothing, pieces]

/-- Whatever a directive begins with, it can be completed to one for a line break. -/
theorem exists_completion {rest : Text} (unfinished : Unfinished rest) :
    ∃ others : Text, percent ∉ others ++ [.ofChar 'n'] ∧
      ∃ count, pieces (percent :: (rest ++ (others ++ [.ofChar 'n']))) = [.directive count .newline] := by
  rcases unfinished with rfl | ⟨digits, rfl, all⟩
  · exact ⟨[], by decide, none, pieces_of_whole 1 (by decide) rfl⟩
  · let zero : CodePoint := .ofChar '0'
    let stop : CodePoint := .ofChar 'n'
    let number := digits ++ [zero]
    refine ⟨[zero], by decide, (placesOf number).1, ?_⟩
    have more : ∀ digit ∈ number, isPlacesDigit digit = true :=
      List.forall_mem_append.mpr ⟨all, List.forall_mem_singleton.mpr (by decide)⟩
    have ends : isPlacesDigit stop = false := by decide
    have taken : (number ++ [stop]).takeWhile isPlacesDigit = number := by
      rw [List.takeWhile_append_of_pos more, List.takeWhile_cons_of_neg (by simp [ends]), List.append_nil]
    have left : (dot :: (number ++ [stop])).drop (number.length + 1) = [stop] := by
      rw [List.drop_succ_cons, List.drop_left]
    have length : (placesOf number).2 = number.length + 1 := by
      cases same : number with
      | nil => cases List.append_ne_nil_of_right_ne_nil digits (List.cons_ne_nil zero []) same
      | cons first later => rfl
    rw [List.cons_append, ← List.append_assoc]
    refine pieces_of_whole (number.length + 1 + 1) ?_ ?_
    · unfold directive?
      rw [places, if_pos rfl, taken]
      dsimp only
      rw [length, left]
      rfl
    · rw [← List.drop_drop, left]
      rfl

section Fill

variable (heap : Heap)

theorem shown_of_consumes {conversion : Conversion} (takes : conversion.consumes = true) (count : Option String)
    (values : List Value) (before : Nat) :
    (Piece.directive count conversion).shown heap values before =
      match values[before]? with
      | some value => argument heap count conversion value
      | none => .ok [] := by
  cases conversion with
  | newline | percent => cases takes
  | integer | fixed | text => rfl

theorem shown_congr {piece : Piece} {values others : List Value} {before place : Nat}
    (same : piece.consumes = true → values[before]? = others[place]?) :
    piece.shown heap values before = piece.shown heap others place := by
  cases piece with
  | plain point => rfl
  | directive count conversion =>
      cases conversion with
      | newline | percent => rfl
      | integer | fixed | text => rw [shown_of_consumes heap rfl, shown_of_consumes heap rfl, same rfl]

/-- A piece shows itself, and then the others with the arguments that it leaves. -/
theorem fill_cons (piece : Piece) (rest : List Piece) (values : List Value) :
    fill heap (piece :: rest) values = do
      let text ← piece.shown heap values 0
      let others ← fill heap rest (values.drop (if piece.consumes then 1 else 0))
      return text ++ others := by
  have mapped : ∀ (text : Text) (outcome : Except Failure Text),
      (text ++ ·) <$> outcome = outcome >>= fun others => pure (text ++ others) := by
    intro text outcome
    cases outcome <;> rfl
  cases piece with
  | plain point =>
      rw [fill, mapped]
      rfl
  | directive count conversion =>
      cases conversion with
      | newline | percent =>
          rw [fill, mapped]
          rfl
      | integer | fixed | text =>
          cases values with
          | nil =>
              rw [fill, shown_of_consumes heap rfl]
              · change fill heap rest [] = fill heap rest [] >>= fun others => pure ([] ++ others)
                rw [← mapped]
                simp only [List.nil_append, id_map']
              · rintro ⟨⟩
              · rintro ⟨⟩
          | cons value values =>
              rw [fill, shown_of_consumes heap rfl, List.getElem?_cons_zero]
              · dsimp only
                cases argument heap count _ value with
                | error failure => rfl
                | ok text => exact mapped text _
              · rintro ⟨⟩
              · rintro ⟨⟩

theorem fill_append (one two : List Piece) (values : List Value) :
    fill heap (one ++ two) values = do
      let text ← fill heap one values
      let others ← fill heap two (values.drop (one.countP Piece.consumes))
      return text ++ others := by
  induction one generalizing values with
  | nil =>
      change fill heap two values = fill heap two values >>= fun others => pure ([] ++ others)
      simp only [List.nil_append, bind_pure]
  | cons piece rest ih =>
      have counted : (piece :: rest).countP Piece.consumes =
          (if piece.consumes then 1 else 0) + rest.countP Piece.consumes := by
        rw [List.countP_cons, Nat.add_comm]
      rw [List.cons_append, fill_cons, fill_cons, ih, counted, ← List.drop_drop]
      simp only [bind_assoc, pure_bind, List.append_assoc]

/-- Each piece shows itself by the number of arguments taken before it. -/
theorem fill_placed (pieces : List Piece) (values : List Value) (before : Nat) :
    fill heap pieces (values.drop before) =
      List.flatten <$> (placed before pieces).mapM fun entry => entry.1.shown heap values entry.2 := by
  induction pieces generalizing before with
  | nil => rfl
  | cons piece rest ih =>
      have first : piece.shown heap (values.drop before) 0 = piece.shown heap values before :=
        shown_congr heap fun _ => by rw [List.getElem?_drop, Nat.add_zero]
      rw [fill_cons, first, List.drop_drop, ih, placed, List.mapM_cons]
      simp only [List.flatten_cons, map_eq_pure_bind, bind_assoc, pure_bind]

theorem fill_take (pieces : List Piece) (values : List Value) :
    fill heap pieces (values.take (pieces.countP Piece.consumes)) = fill heap pieces values := by
  induction pieces generalizing values with
  | nil => rfl
  | cons piece rest ih =>
      have first : piece.shown heap (values.take ((piece :: rest).countP Piece.consumes)) 0 =
          piece.shown heap values 0 := by
        refine shown_congr heap fun takes => List.getElem?_take_of_lt ?_
        rw [List.countP_cons_of_pos takes]
        exact Nat.zero_lt_succ _
      rw [fill_cons, fill_cons, first, List.drop_take, List.countP_cons, Nat.add_sub_cancel, ih]

theorem exists_fill_nil (pieces : List Piece) : ∃ text, fill heap pieces [] = .ok text := by
  induction pieces with
  | nil => exact ⟨[], rfl⟩
  | cons piece rest ih =>
      obtain ⟨others, filled⟩ := ih
      have first : ∃ text, piece.shown heap [] 0 = .ok text := by
        cases piece with
        | plain point => exact ⟨_, rfl⟩
        | directive count conversion => cases conversion <;> exact ⟨_, rfl⟩
      obtain ⟨text, shown⟩ := first
      rw [fill_cons, shown, List.drop_nil, filled]
      exact ⟨text ++ others, rfl⟩

theorem fill_plain (text : Text) (values : List Value) : fill heap (text.map .plain) values = .ok text := by
  induction text with
  | nil => rfl
  | cons point rest ih =>
      rw [List.map_cons, fill, ih]
      rfl

end Fill

/-- What is left open can go on in such a way that it shows something else than it would alone. -/
theorem LeftOpen.not_apart {first : Text} (leftOpen : LeftOpen first) :
    ¬∀ (second : Text) (values : List Value) (heap : Heap), format (first ++ second) values heap = do
      let text ← format first values heap
      let others ← format second (values.drop (taken first)) heap
      return text ++ others := by
  intro apart
  obtain ⟨earlier, rest, unfinished, split⟩ := leftOpen.runsOn
  obtain ⟨others, plain, count, completed⟩ := exists_completion unfinished
  obtain ⟨shown, filled⟩ := exists_fill_nil .empty earlier
  obtain ⟨alone, formatted⟩ := exists_fill_nil .empty (pieces first)
  have together : format (first ++ (others ++ [.ofChar 'n'])) [] .empty = .ok (shown ++ [.ofChar '\n']) := by
    rw [format, split, completed, fill_append, filled]
    rfl
  have behind : format (others ++ [.ofChar 'n']) [] .empty = .ok (others ++ [.ofChar 'n']) := by
    rw [format, pieces_of_no_percent plain, fill_plain]
  have same := apart (others ++ [.ofChar 'n']) [] .empty
  rw [together, List.drop_nil, behind, format, formatted] at same
  -- The one text ends in a line break, the other in a letter.
  have ends := congrArg List.getLast? (Except.ok.inj same)
  simp only [← List.append_assoc, List.getLast?_concat] at ends
  exact absurd ends (by decide)

/-- A template is shown piece by piece. What comes behind a template that is not left open is shown by itself, with the
arguments that the template leaves, and this holds of no other template. Every directive that shows an argument shows
the one whose number is that of such directives before it, or nothing if there is none; further arguments do not
matter. -/
theorem format_piece_by_piece :
    (∀ first : Text, ¬LeftOpen first ↔
      ∀ (second : Text) (values : List Value) (heap : Heap), format (first ++ second) values heap = do
        let text ← format first values heap
        let others ← format second (values.drop (taken first)) heap
        return text ++ others) ∧
    (∀ (template : Text) (values : List Value) (heap : Heap), format template values heap =
      List.flatten <$> (placed 0 (pieces template)).mapM fun entry => entry.1.shown heap values entry.2) ∧
    ∀ (template : Text) (values : List Value) (heap : Heap),
      format template (values.take (taken template)) heap = format template values heap := by
  refine ⟨fun first => ⟨fun closed second values heap => ?_, fun apart leftOpen => ?_⟩, ?_, ?_⟩
  · rw [format, pieces_append closed, fill_append]
    rfl
  · exact leftOpen.not_apart apart
  · exact fun template values heap => fill_placed heap (pieces template) values 0
  · exact fun template values heap => fill_take heap (pieces template) values

theorem LeftOpen.percent_mem {text : Text} (leftOpen : LeftOpen text) : .plain percent ∈ pieces text := by
  obtain ⟨earlier, rest, split, -⟩ := leftOpen
  rw [split]
  exact List.mem_append_right _ List.mem_cons_self

/-- Behind the first directive the second one takes the second argument; the third is ignored. -/
theorem format_fraction :
    ¬LeftOpen "%d/" ∧ format ("%d/" ++ "%d" : Text) [.int 1, .int 2, .int 3] .empty = .ok "1/2" := by
  have front : pieces "%d/" = [.directive none .integer, .plain '/'] := by decide +kernel
  have behind : pieces "%d" = [.directive none .integer] := by decide +kernel
  have closed : ¬LeftOpen "%d/" := fun leftOpen => by
    have member := leftOpen.percent_mem
    rw [front] at member
    exact absurd member (by decide)
  refine ⟨closed, ((format_piece_by_piece.1 "%d/").mp closed "%d" [.int 1, .int 2, .int 3] .empty).trans ?_⟩
  rw [format, format, taken, front, behind]
  rfl

end Template

end Stepwise
