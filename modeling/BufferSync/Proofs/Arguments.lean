import BufferSync.Demo.Config

/-!
# The grammar of the arguments

The arguments of the demo are read by splitting and by parsing digits.  This module says which texts
are read and what they stand for, without either: a grammar on one side, the reader on the other.

*Numerals.*  A numeral is a row of decimal digits, maybe behind a plus sign, that stands for a
number below a bound.  The reader keeps the number read so far, so the law of its loop is about any
start (`digits?_eq_some_iff`).

*Sizes.*  A size is two numerals with an `x` between them.  The reader splits at the first `x`, the
grammar at any; since no numeral holds an `x`, there is no other way to split a size.

*Arguments.*  `Asks` and `Objects` list what a list of arguments asks for and what can be objected
to it.  No list of arguments is left out by both (`asks_or_objects`), and the reader follows either,
so that it follows both exactly.
-/

namespace BufferSync

/-! ## Numerals -/

namespace Text

variable {c : Char} {cs ds : List Char} {n m bound : Nat}

/-- One or more decimal digits that stand for the number `n`. -/
structure Digits (ds : List Char) (n : Nat) : Prop where
  /-- There is a digit. -/
  nonempty : ds ≠ []
  /-- There are only digits. -/
  digits : ∀ c ∈ ds, c.isDigit = true
  /-- In the decimal system they stand for `n`. -/
  value : Nat.ofDigitChars 10 ds 0 = n

/-- A numeral for the number `n`, which is below `bound`. -/
inductive Numeral (bound : Nat) : List Char → Nat → Prop
  /-- The digits alone. -/
  | plain {ds : List Char} {n : Nat} (digits : Digits ds n) (below : n < bound) :
      Numeral bound ds n
  /-- The digits behind a plus sign. -/
  | plus {ds : List Char} {n : Nat} (digits : Digits ds n) (below : n < bound) :
      Numeral bound ('+' :: ds) n

theorem isDigit_iff : c.isDigit = true ↔ '0' ≤ c ∧ c ≤ '9' := by
  rw [Char.isDigit, Bool.and_eq_true, decide_eq_true_eq, decide_eq_true_eq]
  rfl

theorem digit?_of_isDigit (hc : c.isDigit = true) : digit? c = some (c.toNat - '0'.toNat) :=
  if_pos (isDigit_iff.mp hc)

theorem digit?_of_not_isDigit (hc : ¬ c.isDigit = true) : digit? c = none :=
  if_neg fun h => hc (isDigit_iff.mpr h)

/-- The loop reads digits only, and goes on with the number that it has. -/
theorem digits?_eq_some_iff :
    digits? m cs = some n ↔ (∀ c ∈ cs, c.isDigit = true) ∧ Nat.ofDigitChars 10 cs m = n := by
  induction cs generalizing m with
  | nil => simp [digits?]
  | cons c rest ih =>
    rw [digits?, List.forall_mem_cons, Nat.ofDigitChars_cons]
    by_cases hc : c.isDigit = true
    · rw [digit?_of_isDigit hc]
      simp only
      rw [ih, and_iff_right hc]
    · rw [digit?_of_not_isDigit hc]
      simp [hc]

/-- Behind a plus sign, or in front, there are digits for a number below the bound. -/
theorem numeral?_eq_some_iff_digits :
    numeral? bound cs = some n ↔ Digits (dropPlus cs) n ∧ n < bound := by
  rw [numeral?]
  cases dropPlus cs with
  | nil =>
    simp only [reduceCtorEq, false_iff]
    rintro ⟨hdigits, -⟩
    exact hdigits.nonempty rfl
  | cons c rest =>
    simp only
    constructor
    · intro h
      split at h
      next k hk =>
        split at h
        next hlt =>
          obtain rfl := Option.some.inj h
          obtain ⟨hdigits, hvalue⟩ := digits?_eq_some_iff.mp hk
          exact ⟨⟨List.cons_ne_nil _ _, hdigits, hvalue⟩, hlt⟩
        next => cases h
      next => cases h
    · rintro ⟨hdigits, hlt⟩
      rw [digits?_eq_some_iff.mpr ⟨hdigits.digits, hdigits.value⟩]
      exact if_pos hlt

/-- No row of digits begins with a plus sign. -/
theorem Digits.dropPlus_eq (hd : Digits ds n) : dropPlus ds = ds := by
  unfold dropPlus
  split
  next rest =>
    have hplus := hd.digits '+' List.mem_cons_self
    cases hplus
  next => rfl

theorem numeral_iff_digits : Numeral bound cs n ↔ Digits (dropPlus cs) n ∧ n < bound := by
  constructor
  · intro h
    cases h with
    | plain digits below =>
      rw [digits.dropPlus_eq]
      exact ⟨digits, below⟩
    | plus digits below => exact ⟨digits, below⟩
  · rintro ⟨hdigits, hlt⟩
    unfold dropPlus at hdigits
    split at hdigits
    · exact .plus hdigits hlt
    · exact .plain hdigits hlt

/-- What the reader takes for a numeral is one, and stands for that number. -/
theorem numeral?_eq_some_iff : numeral? bound cs = some n ↔ Numeral bound cs n := by
  rw [numeral?_eq_some_iff_digits, numeral_iff_digits]

/-- Numbers in numerals are below the bound. -/
theorem Numeral.lt (h : Numeral bound cs n) : n < bound :=
  (numeral_iff_digits.mp h).2

/-- A numeral consists of digits and plus signs. -/
theorem Numeral.not_mem (h : Numeral bound cs n) (hdigit : ¬ c.isDigit = true) (hplus : c ≠ '+') :
    c ∉ cs := by
  cases h with
  | plain digits below => exact fun hc => hdigit (digits.digits c hc)
  | plus digits below =>
    intro hc
    rcases List.mem_cons.mp hc with rfl | hc
    · exact hplus rfl
    · exact hdigit (digits.digits c hc)

/-- The decimal text of a number is a numeral for it. -/
theorem numeral_toString (hn : n < bound) : Numeral bound (toString n).toList n := by
  rw [Nat.toString_eq_repr, Nat.toList_repr]
  refine .plain ⟨Nat.toDigits_ne_nil, ?_, Nat.ofDigitChars_ten_toDigits⟩ hn
  intro c hc
  exact Nat.isDigit_of_mem_toDigits (by decide) (by decide) hc

/-- A text is split at the first `c`: there is none in front of it. -/
theorem splitAtFirst?_eq_some_iff {before behind : List Char} :
    splitAtFirst? c cs = some (before, behind) ↔ cs = before ++ c :: behind ∧ c ∉ before := by
  induction cs generalizing before with
  | nil => simp [splitAtFirst?]
  | cons d rest ih =>
    rw [splitAtFirst?]
    split
    next hd =>
      subst hd
      cases before with
      | nil => simp
      | cons e before =>
        simp only [Option.some.injEq, Prod.mk.injEq, List.nil_eq, reduceCtorEq, false_and,
          false_iff, List.cons_append, List.cons.injEq, List.mem_cons, not_or, not_and]
        rintro ⟨rfl, -⟩ hne
        exact absurd rfl hne
    next hd =>
      cases before with
      | nil => simp [hd]
      | cons e before =>
        constructor
        · intro h
          obtain ⟨⟨front, back⟩, hsplit, heq⟩ := Option.map_eq_some_iff.mp h
          cases heq
          obtain ⟨hrest, hfront⟩ := ih.mp hsplit
          refine ⟨by rw [hrest, List.cons_append], ?_⟩
          rw [List.mem_cons, not_or]
          exact ⟨fun hcd => hd hcd.symm, hfront⟩
        · rintro ⟨heq, hbefore⟩
          rw [List.cons_append, List.cons.injEq] at heq
          obtain ⟨rfl, hrest⟩ := heq
          rw [ih.mpr ⟨hrest, fun hc => hbefore (List.mem_cons_of_mem _ hc)⟩]
          rfl

end Text

namespace Demo.Config

open Text (Numeral)

variable {s f : String} {n w h : Nat} {args rest : List String} {config : Config} {e : Error}

/-! ## Single arguments -/

/-- The argument is a numeral for `n`. -/
def IsNumber (s : String) (n : Nat) : Prop :=
  Numeral numberLimit s.toList n

/-- The argument is a numeral for `w`, the letter `x` and a numeral for `h`. -/
def IsSize (s : String) (w h : Nat) : Prop :=
  ∃ front back, s.toList = front ++ 'x' :: back ∧
    Numeral numberLimit front w ∧ Numeral numberLimit back h

theorem number?_eq_some_iff : number? s.toList = some n ↔ IsNumber s n :=
  Text.numeral?_eq_some_iff

theorem size?_eq_some_iff : size? s.toList = some (w, h) ↔ IsSize s w h := by
  constructor
  · intro hsize
    obtain ⟨⟨front, back⟩, hsplit, hrest⟩ := Option.bind_eq_some_iff.mp hsize
    obtain ⟨width, hw, hrest⟩ := Option.bind_eq_some_iff.mp hrest
    obtain ⟨height, hh, hpair⟩ := Option.bind_eq_some_iff.mp hrest
    cases hpair
    exact ⟨front, back, (Text.splitAtFirst?_eq_some_iff.mp hsplit).1,
      Text.numeral?_eq_some_iff.mp hw, Text.numeral?_eq_some_iff.mp hh⟩
  · rintro ⟨front, back, hs, hw, hh⟩
    have hsplit := Text.splitAtFirst?_eq_some_iff.mpr
      ⟨hs, hw.not_mem (by decide) (by decide)⟩
    rw [size?, hsplit]
    simp only [number?, Option.bind_eq_bind, Option.bind_some, Text.numeral?_eq_some_iff.mpr hw,
      Text.numeral?_eq_some_iff.mpr hh]
    rfl

theorem withFrames_of_isNumber (hf : IsNumber f n) (config : Config) :
    withFrames config f = .ok { config with frames := n } := by
  rw [withFrames, number?_eq_some_iff.mpr hf]

theorem withFrames_of_not (hf : ∀ n, ¬ IsNumber f n) (config : Config) :
    withFrames config f = .error (.invalidArgument s!"frame count '{f}' is not a number") := by
  have hnone : number? f.toList = none :=
    Option.eq_none_iff_forall_ne_some.mpr fun n hn => hf n (number?_eq_some_iff.mp hn)
  rw [withFrames, hnone]

theorem withSize_of_not (hs : ∀ w h, ¬ IsSize s w h) (config : Config) :
    withSize config s = .error (.invalidArgument s!"window size '{s}' is not WIDTHxHEIGHT") := by
  have hnone : size? s.toList = none :=
    Option.eq_none_iff_forall_ne_some.mpr fun p hp => hs p.1 p.2 (size?_eq_some_iff.mp hp)
  rw [withSize, hnone]

theorem withSize_of_empty (hs : IsSize s w h) (hzero : w = 0 ∨ h = 0) (config : Config) :
    withSize config s = .error (.invalidArgument s!"window size '{s}' is empty") := by
  rw [withSize, size?_eq_some_iff.mpr hs]
  exact if_pos hzero

theorem withSize_of_isSize {width height : UInt32} (hs : IsSize s width.toNat height.toNat)
    (hwidth : width ≠ 0) (hheight : height ≠ 0) (config : Config) :
    withSize config s = .ok { config with width, height } := by
  have hsome : ¬ (width.toNat = 0 ∨ height.toNat = 0) := by
    rintro (hzero | hzero)
    · exact hwidth (UInt32.toNat_inj.mp hzero)
    · exact hheight (UInt32.toNat_inj.mp hzero)
  rw [withSize, size?_eq_some_iff.mpr hs]
  simp only [if_neg hsome, UInt32.ofNat_toNat]

/-- Width and height are words of 32 bits. -/
theorem IsSize.exists_words (hs : IsSize s w h) :
    ∃ width height : UInt32, width.toNat = w ∧ height.toNat = h := by
  obtain ⟨front, back, -, hw, hh⟩ := hs
  exact ⟨.ofNat w, .ofNat h, UInt32.toNat_ofNat_of_lt' hw.lt, UInt32.toNat_ofNat_of_lt' hh.lt⟩

/-! ## Lists of arguments -/

/-- What the arguments ask for.  Whatever they do not mention is as by default, and arguments behind
the second one do not matter. -/
inductive Asks : List String → Config → Prop
  /-- There are no arguments. -/
  | defaults : Asks [] {}
  /-- A number of frames is given. -/
  | frames {f : String} {n : Nat} (count : IsNumber f n) : Asks [f] { frames := n }
  /-- A number of frames and the size of a window that is not empty are given. -/
  | sized {f s : String} {n : Nat} {width height : UInt32} {rest : List String}
      (count : IsNumber f n) (size : IsSize s width.toNat height.toNat) (wide : width ≠ 0)
      (tall : height ≠ 0) : Asks (f :: s :: rest) { frames := n, width, height }

/-- What is objected to the arguments, first things first. -/
inductive Objects : List String → Error → Prop
  /-- The first one is no numeral. -/
  | frames {f : String} {rest : List String} (bad : ∀ n, ¬ IsNumber f n) :
      Objects (f :: rest) (.invalidArgument s!"frame count '{f}' is not a number")
  /-- The first one is a numeral, and the second one has not the form of a size. -/
  | shape {f s : String} {n : Nat} {rest : List String} (count : IsNumber f n)
      (bad : ∀ w h, ¬ IsSize s w h) :
      Objects (f :: s :: rest) (.invalidArgument s!"window size '{s}' is not WIDTHxHEIGHT")
  /-- The second one has the form of a size, and the window is empty. -/
  | empty {f s : String} {n w h : Nat} {rest : List String} (count : IsNumber f n)
      (size : IsSize s w h) (bad : w = 0 ∨ h = 0) :
      Objects (f :: s :: rest) (.invalidArgument s!"window size '{s}' is empty")

theorem Asks.ofArguments_eq (h : Asks args config) : ofArguments args = .ok config := by
  cases h with
  | defaults => rfl
  | frames count => exact withFrames_of_isNumber count {}
  | sized count size wide tall =>
    rw [ofArguments, withFrames_of_isNumber count]
    exact withSize_of_isSize size wide tall _

theorem Objects.ofArguments_eq (h : Objects args e) : ofArguments args = .error e := by
  cases h with
  | @frames f rest bad =>
    cases rest with
    | nil => exact withFrames_of_not bad {}
    | cons s rest =>
      rw [ofArguments, withFrames_of_not bad]
      rfl
  | shape count bad =>
    rw [ofArguments, withFrames_of_isNumber count]
    exact withSize_of_not bad _
  | empty count size bad =>
    rw [ofArguments, withFrames_of_isNumber count]
    exact withSize_of_empty size bad _

/-- Every list of arguments asks for something or is objected to. -/
theorem asks_or_objects (args : List String) :
    (∃ config, Asks args config) ∨ ∃ e, Objects args e := by
  cases args with
  | nil => exact .inl ⟨_, .defaults⟩
  | cons f rest =>
    by_cases hf : ∃ n, IsNumber f n
    · obtain ⟨n, hn⟩ := hf
      cases rest with
      | nil => exact .inl ⟨_, .frames hn⟩
      | cons s rest =>
        by_cases hs : ∃ w h, IsSize s w h
        · obtain ⟨w, h, hsize⟩ := hs
          by_cases hzero : w = 0 ∨ h = 0
          · exact .inr ⟨_, .empty hn hsize hzero⟩
          · obtain ⟨width, height, rfl, rfl⟩ := hsize.exists_words
            obtain ⟨hw, hh⟩ := not_or.mp hzero
            refine .inl ⟨_, .sized hn hsize ?_ ?_⟩
            · rintro rfl
              exact hw rfl
            · rintro rfl
              exact hh rfl
        · exact .inr ⟨_, .shape hn fun w h hsize => hs ⟨w, h, hsize⟩⟩
    · exact .inr ⟨_, .frames fun n hn => hf ⟨n, hn⟩⟩

/-- The decimal texts of a width and a height, with an `x` between them, are a size. -/
theorem isSize_toString (w h : UInt32) :
    IsSize (toString w ++ "x" ++ toString h) w.toNat h.toNat := by
  refine ⟨(toString w).toList, (toString h).toList, ?_, Text.numeral_toString w.toNat_lt,
    Text.numeral_toString h.toNat_lt⟩
  simp

/-- The arguments are accepted exactly if they follow the grammar, and then give what they ask for;
all others are refused for the first thing that can be objected.  In particular the decimal texts of
numbers are understood as these numbers. -/
theorem arguments_understood :
    (∀ args config, ofArguments args = .ok config ↔ Asks args config) ∧
    (∀ args e, ofArguments args = .error e ↔ Objects args e) ∧
    ∀ frames width height : UInt32, width ≠ 0 → height ≠ 0 →
      ofArguments [toString frames, toString width ++ "x" ++ toString height] =
        .ok { frames := frames.toNat, width, height } := by
  refine ⟨fun args config => ⟨?_, Asks.ofArguments_eq⟩, fun args e => ⟨?_, Objects.ofArguments_eq⟩,
    ?_⟩
  · intro hok
    obtain ⟨config', hasks⟩ | ⟨e, hobjects⟩ := asks_or_objects args
    · cases hok.symm.trans hasks.ofArguments_eq
      exact hasks
    · cases hok.symm.trans hobjects.ofArguments_eq
  · intro herror
    obtain ⟨config, hasks⟩ | ⟨e', hobjects⟩ := asks_or_objects args
    · cases herror.symm.trans hasks.ofArguments_eq
    · cases herror.symm.trans hobjects.ofArguments_eq
      exact hobjects
  · intro frames width height hwidth hheight
    exact (Asks.sized (Text.numeral_toString frames.toNat_lt) (isSize_toString width height) hwidth
      hheight).ofArguments_eq

/-- Plus signs and leading zeros do not matter, and neither does a third argument.  A minus sign is
objected to, before anything else is. -/
theorem arguments_understood_signed :
    ofArguments ["+007", "0640x+480", "-1"] =
        .ok { frames := 7, width := 640, height := 480 } ∧
      ofArguments ["-1", "0x0"] =
        .error (.invalidArgument "frame count '-1' is not a number") ∧
      ofArguments [toString (0 : UInt32), toString (1 : UInt32) ++ "x" ++ toString (2 : UInt32)] =
        .ok { frames := 0, width := 1, height := 2 } := by
  obtain ⟨hok, herror, hdecimal⟩ := arguments_understood
  have hseven : Text.Digits "007".toList 7 := ⟨by decide, List.all_eq_true.mp rfl, rfl⟩
  have hwidth : Text.Digits "0640".toList 640 := ⟨by decide, List.all_eq_true.mp rfl, rfl⟩
  have hheight : Text.Digits "480".toList 480 := ⟨by decide, List.all_eq_true.mp rfl, rfl⟩
  refine ⟨(hok _ _).mpr (.sized (.plus hseven (by decide)) ⟨"0640".toList, "+480".toList, rfl,
    .plain hwidth (by decide), .plus hheight (by decide)⟩ (by decide) (by decide)),
    (herror _ _).mpr (.frames (f := "-1") ?_), hdecimal 0 1 2 (by decide) (by decide)⟩
  intro n hn
  have hminus := hn.not_mem (c := '-') (by decide) (by decide)
  exact hminus (by decide)

end Demo.Config

end BufferSync
