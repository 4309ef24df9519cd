import LayerHeaders.Bound
import LayerHeaders.Manifest.Typing
import LayerHeaders.Proofs.Traversal

/-!
# What a preprocessor leaves of some lines

Lines between `#if` and `#endif` are left if the condition holds, and all other code is left. A condition
asks for one of some macros, by `defined( A ) || defined( B )`. This module reads lines and conditions for
themselves, without regard to where they come from.

* `holds?`: whether a condition holds.
* `survivors?`: the lines that are left.
* `Leaves`: what is left of a part, whatever follows it.
* `holds?_platforms`: the condition for some platforms asks whether the macro of one of them is defined.
-/

namespace LayerHeaders.Preprocessor

/-! ## Conditions -/

/-- A part of a condition. -/
inductive Token where
  /-- A word. -/
  | word (name : String)
  /-- Any other character that is not blank. -/
  | symbol (c : Char)
deriving DecidableEq

/-- The token of a word, if there is one. -/
def wordToken (word : List Char) : List Token :=
  if word.isEmpty then [] else [.word (.ofList word)]

/-- The tokens of the rest of a condition, where `word` is the word that is being read. -/
def tokensFrom (word : List Char) : List Char → List Token
  | [] => wordToken word
  | c :: cs =>
    if isWordChar c then tokensFrom (word ++ [c]) cs
    else wordToken word ++ (if Text.isBlank c then [] else [.symbol c]) ++ tokensFrom [] cs

/-- **Whether a condition holds**, if it asks for macros. -/
def holds? (defined : String → Bool) : List Token → Option Bool
  | .word keyword :: .symbol '(' :: .word name :: .symbol ')' :: rest =>
    if keyword = "defined" then
      match rest with
      | [] => some (defined name)
      | .symbol '|' :: .symbol '|' :: others => (holds? defined others).map (defined name || ·)
      | _ => none
    else none
  | _ => none

theorem holds?_single (defined : String → Bool) (name : String) :
    holds? defined [.word "defined", .symbol '(', .word name, .symbol ')'] = some (defined name) := by
  simp [holds?]

theorem holds?_or {defined : String → Bool} (name : String) (others : List Token) :
    holds? defined (.word "defined" :: .symbol '(' :: .word name :: .symbol ')' :: .symbol '|' ::
      .symbol '|' :: others) = (holds? defined others).map (defined name || ·) := by
  simp [holds?]

/-! ## Lines -/

/-- What a line is to a preprocessor. -/
inductive LineRole where
  /-- It opens a conditional. -/
  | opens (condition : List Char)
  /-- It closes one. -/
  | closes
  /-- It is code, or a directive that is not about conditionals. -/
  | code
  /-- It is a directive that is not read here. -/
  | other
deriving DecidableEq

/-- What a line is to a preprocessor: a directive stands behind a number sign, the first character that is
not blank. -/
def role (line : String) : LineRole :=
  match Text.trimStart line.toList with
  | '#' :: rest =>
    let directive := Text.trimStart rest
    match directive.takeWhile isWordChar with
    | ['i', 'f'] => .opens (directive.dropWhile isWordChar)
    | ['e', 'n', 'd', 'i', 'f'] => .closes
    | ['p', 'r', 'a', 'g', 'm', 'a'] => .code
    | ['i', 'n', 'c', 'l', 'u', 'd', 'e'] => .code
    | _ => .other
  | _ => .code

/-- **The lines that a preprocessor leaves**, while `open?` says whether the condition of the open
conditional holds. Conditionals inside one another and other directives are not read. -/
def survivors? (defined : String → Bool) (open? : Option Bool) : List String → Option (List String)
  | [] => if open?.isNone then some [] else none
  | line :: lines =>
    match role line, open? with
    | .code, _ =>
      (survivors? defined open? lines).map fun left => if open?.getD true then line :: left else left
    | .opens condition, none =>
      (holds? defined (tokensFrom [] condition)).bind fun holds => survivors? defined (some holds) lines
    | .closes, some _ => survivors? defined none lines
    | _, _ => none

/-! ### One line -/

section

variable {defined : String → Bool} {open? : Option Bool} {line : String} {lines : List String}

theorem survivors?_code (h : role line = .code) :
    survivors? defined open? (line :: lines) =
      (survivors? defined open? lines).map fun left =>
        if open?.getD true then line :: left else left := by
  simp only [survivors?, h]

theorem survivors?_opens {condition : List Char} (h : role line = .opens condition) :
    survivors? defined none (line :: lines) =
      (holds? defined (tokensFrom [] condition)).bind fun holds =>
        survivors? defined (some holds) lines := by
  simp only [survivors?, h]

theorem survivors?_closes {holds : Bool} (h : role line = .closes) :
    survivors? defined (some holds) (line :: lines) = survivors? defined none lines := by
  simp only [survivors?, h]

end

/-! ## Parts -/

section

variable {defined : String → Bool} {open? : Option Bool} {part part' left left' rest : List String}

/-- Code is left if the condition of the open conditional holds. -/
theorem survivors?_append_code (h : ∀ line ∈ part, role line = .code) :
    survivors? defined open? (part ++ rest) =
      (survivors? defined open? rest).map fun left => if open?.getD true then part ++ left else left := by
  induction part with
  | nil => simp
  | cons line part ih =>
      obtain ⟨hline, hpart⟩ := List.forall_mem_cons.1 h
      rw [List.cons_append, survivors?_code hline, ih hpart, Option.map_map]
      congr 1
      funext left
      by_cases hopen : open?.getD true = true
      · simp only [Function.comp_apply, if_pos hopen, List.cons_append]
      · simp only [Function.comp_apply, if_neg hopen]

/-- **What is left of a part**, whatever follows it. -/
def Leaves (defined : String → Bool) (part left : List String) : Prop :=
  ∀ rest, survivors? defined none (part ++ rest) = (survivors? defined none rest).map (left ++ ·)

/-- Code is left. -/
theorem leaves_code (h : ∀ line ∈ part, role line = .code) : Leaves defined part part :=
  fun _ => survivors?_append_code h

/-- Code between the lines of a conditional is left if the condition holds. -/
theorem leaves_conditional {first last : String} {condition : List Char} {holds : Bool}
    (hfirst : role first = .opens condition)
    (hholds : holds? defined (tokensFrom [] condition) = some holds)
    (hpart : ∀ line ∈ part, role line = .code) (hlast : role last = .closes) :
    Leaves defined (first :: part ++ [last]) (if holds then part else []) := by
  intro rest
  rw [List.append_assoc, List.cons_append, survivors?_opens hfirst, hholds, Option.bind_some,
    survivors?_append_code hpart, List.singleton_append, survivors?_closes hlast]
  rcases holds with _ | _ <;> rfl

theorem Leaves.append (h : Leaves defined part left) (h' : Leaves defined part' left') :
    Leaves defined (part ++ part') (left ++ left') := by
  intro rest
  rw [List.append_assoc, h, h', Option.map_map]
  simp [Function.comp_def]

theorem leaves_flatMap {α : Type} {parts lefts : α → List String} {l : List α}
    (h : ∀ x ∈ l, Leaves defined (parts x) (lefts x)) :
    Leaves defined (l.flatMap parts) (l.flatMap lefts) := by
  induction l with
  | nil => exact leaves_code (by simp)
  | cons x l ih =>
      obtain ⟨hx, hl⟩ := List.forall_mem_cons.1 h
      rw [List.flatMap_cons, List.flatMap_cons]
      exact hx.append (ih hl)

/-- What is left of all lines. -/
theorem Leaves.survivors? (h : Leaves defined part left) :
    survivors? defined none part = some left := by
  have hall := h []
  have hend : Preprocessor.survivors? defined none [] = some [] := rfl
  rwa [List.append_nil, hend, Option.map_some, List.append_nil] at hall

end

/-! ## Platforms -/

/-- The macro that is defined on a platform. -/
def platformMacro? (platform : String) : Option String :=
  match platform with
  | "WINDOWS" => some "WIN32"
  | "LINUX" => some "__linux__"
  | "ANDROID" => some "__ANDROID__"
  | "MACOS" => some "__APPLE__"
  | _ => none

/-- **Whether something for some platforms is there**, if these macros are defined: for all platforms, or
for one whose macro is. -/
def appliesUnder (defined : String → Bool) (platforms : List String) : Bool :=
  platforms.isEmpty || platforms.any fun platform => (platformMacro? platform).any defined

/-- The tokens of two parts of a condition, with a blank between them. -/
theorem tokensFrom_append_blank (word a b : List Char) :
    tokensFrom word (a ++ ' ' :: b) = tokensFrom word a ++ tokensFrom [] b := by
  induction a generalizing word with
  | nil =>
      have hword : isWordChar ' ' = false := by decide
      have hblank : Text.isBlank ' ' = true := by decide
      simp [tokensFrom, hword, hblank]
  | cons c a ih =>
      rw [List.cons_append, tokensFrom, tokensFrom]
      by_cases hc : isWordChar c = true
      · rw [if_pos hc, if_pos hc, ih]
      · rw [if_neg hc, if_neg hc, ih]
        simp only [List.append_assoc]

/-- The tokens of the condition for one platform. -/
theorem tokensFrom_platformCondition {platform condition : String}
    (h : platformCondition platform = .ok condition) :
    ∃ name, platformMacro? platform = some name ∧
      tokensFrom [] condition.toList =
        [.word "defined", .symbol '(', .word name, .symbol ')'] := by
  unfold platformCondition at h
  split at h
  · obtain rfl := Except.ok.inj h
    exact ⟨_, rfl, by decide +kernel⟩
  · obtain rfl := Except.ok.inj h
    exact ⟨_, rfl, by decide +kernel⟩
  · obtain rfl := Except.ok.inj h
    exact ⟨_, rfl, by decide +kernel⟩
  · obtain rfl := Except.ok.inj h
    exact ⟨_, rfl, by decide +kernel⟩
  · cases h

/-- **The condition for some platforms** asks whether the macro of one of them is defined. -/
theorem holds?_platforms {defined : String → Bool} {platforms conditions : List String}
    (h : List.Forall₂ (fun platform condition => platformCondition platform = .ok condition) platforms
      conditions) (hne : platforms ≠ []) :
    holds? defined (tokensFrom [] (" || ".intercalate conditions).toList) =
      some (platforms.any fun platform => (platformMacro? platform).any defined) := by
  induction h with
  | nil => exact absurd rfl hne
  | @cons platform condition platforms conditions hplatform hrest ih =>
      obtain ⟨name, hname, htokens⟩ := tokensFrom_platformCondition hplatform
      rw [List.any_cons, hname, Option.any_some]
      cases hrest with
      | nil =>
          rw [String.intercalate_singleton, htokens, holds?_single, List.any_nil, Bool.or_false]
      | cons hnext hothers =>
          have hbars : tokensFrom [] ['|', '|'] = [.symbol '|', .symbol '|'] := by decide +kernel
          have hparts : ∀ others : String, (condition ++ " || " ++ others).toList =
              condition.toList ++ ' ' :: (['|', '|'] ++ ' ' :: others.toList) := by simp
          rw [String.intercalate_cons_cons, hparts, tokensFrom_append_blank, tokensFrom_append_blank,
            htokens, hbars]
          simp only [List.cons_append, List.nil_append]
          rw [holds?_or, ih (List.cons_ne_nil _ _), Option.map_some]

/-! ## Lines of code -/

/-- Whether a text starts with a character that is neither blank nor a number sign. -/
def startsCode (text : String) : Bool :=
  match text.toList with
  | [] => false
  | c :: _ => !Text.isBlank c && c != '#'

theorem startsCode_append {a : String} (h : startsCode a = true) (b : String) :
    startsCode (a ++ b) = true := by
  unfold startsCode at h ⊢
  rw [String.toList_append]
  rcases ha : a.toList with _ | ⟨c, cs⟩
  · rw [ha] at h
    cases h
  · rw [ha] at h
    exact h

/-- A text that is given by its characters. -/
theorem startsCode_of_eq_ofList {text : String} {c : Char} {cs : List Char}
    (h : text = String.ofList (c :: cs)) (hc : (!Text.isBlank c && c != '#') = true) :
    startsCode text = true := by
  rwa [startsCode, h, String.toList_ofList]

/-- A text that starts like that is code, behind spaces too. -/
theorem role_of_startsCode {spaces : ℕ} {text line : String} (h : startsCode text = true)
    (hline : line.toList = List.replicate spaces ' ' ++ text.toList) : role line = .code := by
  have hspaces : ∀ c ∈ List.replicate spaces ' ', Text.isBlank c = true := by
    intro c hc
    obtain rfl := List.eq_of_mem_replicate hc
    decide
  unfold startsCode at h
  rcases htext : text.toList with _ | ⟨c, cs⟩
  · rw [htext] at h
    cases h
  · rw [htext, Bool.and_eq_true, Bool.not_eq_true', bne_iff_ne] at h
    have htrim : Text.trimStart line.toList = c :: cs := by
      rw [hline, htext, Text.trimStart, List.dropWhile_append_of_pos hspaces,
        List.dropWhile_cons_of_neg (by rw [h.1]; exact Bool.false_ne_true)]
    rw [role, htrim]
    split
    · next rest heq => exact absurd (List.cons.inj heq).1 h.2
    · rfl

/-- The line that opens a conditional. -/
theorem role_if (condition : String) : role ("#if " ++ condition) = .opens (' ' :: condition.toList) := by
  have hline : ("#if " ++ condition).toList = '#' :: 'i' :: 'f' :: ' ' :: condition.toList := by simp
  rw [role, hline]
  rfl

/-- The line that closes one. -/
theorem role_endif : role "#endif" = .closes := by
  decide +kernel

end LayerHeaders.Preprocessor
