import Paygate.Base.JsNumber
import Paygate.Web.Receipts

/-!
# Values that are written and read

What a JavaScript value becomes when it is written by `JSON.stringify` and read again by
`JSON.parse`.  Its properties stay the same, in the same order, and so do its strings and its
numbers, except that an infinite number becomes null.
-/

namespace Paygate.Web

open Text Json

/-- The members of an object as they are written. -/
abbrev Members := List (List UInt16 × Json (List UInt16))

/-! ### Reading -/

/-- A text in which surrogates that stand alone are named by escapes.  In a string literal this is
the same, except after a backslash, where neither a surrogate may stand; outside of string literals
neither a surrogate nor an escape may stand. -/
def escapeAlone : Bool → List (Char ⊕ UInt16) → Option (List Char)
  | _, [] => some []
  | escaped, .inl c :: ps => (escapeAlone (!escaped && c = '\\') ps).map fun s => c :: s
  | true, .inr _ :: _ => none
  | false, .inr u :: ps => (escapeAlone false ps).map fun s => unicodeEscape u ++ s

/-- `JSON.parse` of a string. -/
def parse (s : List UInt16) : Option (Json (List UInt16)) :=
  (escapeAlone false (points s)).bind JsJson.parse

/-- A string that is a text is parsed as this text. -/
theorem parse_utf16 (s : List Char) : parse (utf16 s) = JsJson.parse s
  := by
  have hplain : ∀ escaped, escapeAlone escaped (s.map .inl) = some s := by
    induction s with
    | nil =>
        intro escaped
        rfl
    | cons c s ih =>
        intro escaped
        rw [List.map_cons, escapeAlone, ih, Option.map_some]
  rw [parse, points_utf16, hplain, Option.bind_some]

/-! ### Numbers and texts -/

/-- The number is not infinite. -/
def isFinite (l : List Char) : Bool :=
  (JsJson.roundDouble (JsJson.literalValue l)).isSome

/-- The numbers of JavaScript. -/
def jsNumbers : Numbers where
  truthy l := JsJson.roundDouble (JsJson.literalValue l) ≠ some 0
  toText l := if isFinite l then JsNumber.toString l else "null".toList

/-- Whether a value is null. -/
def isNull : Json (List UInt16) → Bool
  | .null => true
  | _ => false

mutual

/-- The text `String` makes of a value that was parsed; there is none where it throws, as for an
object with a property in the place of its method `toString`. -/
def toString : Json (List UInt16) → Option (List UInt16)
  | .null => some (units "null")
  | .bool true => some (units "true")
  | .bool false => some (units "false")
  | .num l => some (utf16 (JsNumber.toString l))
  | .str s => some s
  | .arr vs => joinItems vs
  | .obj ms =>
      if ms.any fun m => m.1 = units "toString" then none else some (units "[object Object]")

/-- The texts of the items, with commas between them; that of null is empty. -/
def joinItems : List (Json (List UInt16)) → Option (List UInt16)
  | [] => some []
  | [v] => if isNull v then some [] else toString v
  | v :: w :: vs => do
      let item ← if isNull v then some [] else toString v
      return item ++ units "," ++ (← joinItems (w :: vs))

end

/-! ### Looking at values -/

/-- The property of a value, which throws where there is no value. -/
def property (v : Option (Json (List UInt16))) (name : String) :
    Option (Option (Json (List UInt16))) :=
  match v with
  | none | some .null => none
  | some v => some (JsJson.get v name)

/-- The payment context in the body of a challenge, if there is one. -/
def challengeContext (data : Json (List UInt16)) : Option (Option (Json (List UInt16))) :=
  (property (some data) "paymentContext").map fun context =>
    context.filter fun v => truthy jsNumbers (some v)

/-- Whether two values are strictly equal; different objects are not. -/
def strictlyEqual : Option (Json (List UInt16)) → Option (Json (List UInt16)) → Bool
  | none, none | some .null, some .null => true
  | some (.bool b), some (.bool c) => b = c
  | some (.num l), some (.num m) => JsNumber.toString l = JsNumber.toString m
  | some (.str s), some (.str t) => s = t
  | _, _ => false

/-! ### Members and properties -/

/-- The value of the last member with a name. -/
def lookup (ms : Members) (name : List UInt16) : Option (Json (List UInt16)) :=
  (ms.reverse.find? fun m => m.1 = name).map Prod.snd

theorem get_obj (ms : Members) (name : String) :
  JsJson.get (.obj ms) name = lookup ms (units name)
  := rfl

/-- The members with other values. -/
def mapValues (f : Json (List UInt16) → Json (List UInt16)) (ms : Members) : Members :=
  ms.map fun m => (m.1, f m.2)

theorem keys_mapValues (f : Json (List UInt16) → Json (List UInt16)) (ms : Members) :
  (mapValues f ms).map Prod.fst = ms.map Prod.fst
  := by
  simp [mapValues, Function.comp_def]

theorem lookup_append_singleton (ms : Members) (m : List UInt16 × Json (List UInt16))
    (name : List UInt16) :
  lookup (ms ++ [m]) name = if m.1 = name then some m.2 else lookup ms name
  := by
  rw [lookup, List.reverse_append, List.reverse_singleton, List.singleton_append, List.find?_cons]
  by_cases h : m.1 = name
  · simp [h]
  · simp [h, lookup]

theorem lookup_mapValues (f : Json (List UInt16) → Json (List UInt16)) (ms : Members)
    (name : List UInt16) :
  lookup (mapValues f ms) name = (lookup ms name).map f
  := by
  induction ms using List.reverseRecOn with
  | nil => rfl
  | append_singleton ms m ih =>
      have happend : mapValues f (ms ++ [m]) = mapValues f ms ++ [(m.1, f m.2)] := by
        simp [mapValues]
      rw [happend, lookup_append_singleton, lookup_append_singleton, ih]
      split
      · rfl
      · rfl

/-- Among members with different names, the one with a name has its value. -/
theorem lookup_eq_some_iff {ms : Members} (hnodup : (ms.map Prod.fst).Nodup) {name : List UInt16}
    {v : Json (List UInt16)} :
  lookup ms name = some v ↔ (name, v) ∈ ms
  := by
  induction ms using List.reverseRecOn with
  | nil => simp [lookup]
  | append_singleton ms m ih =>
      rw [List.map_append, List.map_singleton] at hnodup
      have hnew : m.1 ∉ ms.map Prod.fst := by
        intro hmem
        exact List.disjoint_of_nodup_append hnodup hmem (List.mem_singleton_self _)
      rw [lookup_append_singleton, List.mem_append, List.mem_singleton]
      split
      · rename_i hname
        have hold : (name, v) ∉ ms := by
          intro hmem
          apply hnew
          rw [hname]
          exact List.mem_map_of_mem hmem
        rw [Option.some.injEq, or_iff_right hold, Prod.ext_iff]
        simp [hname, eq_comm]
      · rename_i hname
        rw [ih (List.Nodup.of_append_left hnodup), or_iff_left]
        rintro rfl
        exact hname rfl

/-- Members with different names have the same values in any order. -/
theorem lookup_perm {ms ms' : Members} (hnodup : (ms.map Prod.fst).Nodup) (h : ms.Perm ms')
    (name : List UInt16) :
  lookup ms name = lookup ms' name
  := by
  have hnodup' : (ms'.map Prod.fst).Nodup := (h.map Prod.fst).nodup_iff.mp hnodup
  apply Option.ext
  intro v
  rw [lookup_eq_some_iff hnodup, lookup_eq_some_iff hnodup', h.mem_iff]

/-! ### Giving properties to an object -/

theorem keys_setProperty (ps : Members) (m : List UInt16 × Json (List UInt16)) :
  (setProperty ps m).map Prod.fst
    = if m.1 ∈ ps.map Prod.fst then ps.map Prod.fst else ps.map Prod.fst ++ [m.1]
  := by
  unfold setProperty
  split
  · rw [List.map_map]
    apply List.map_congr_left
    intro p _
    rw [Function.comp_apply]
    split
    · rename_i heq
      exact heq.symm
    · rfl
  · simp

/-- The names of the properties of an object are different. -/
theorem nodup_foldl_setProperty (ms : Members) {ps : Members} (h : (ps.map Prod.fst).Nodup) :
  ((ms.foldl setProperty ps).map Prod.fst).Nodup
  := by
  induction ms generalizing ps with
  | nil => exact h
  | cons m ms ih =>
      apply ih
      rw [keys_setProperty]
      split
      · exact h
      · rename_i hnew
        rw [← List.concat_eq_append]
        exact h.concat hnew

theorem setProperty_mapValues (f : Json (List UInt16) → Json (List UInt16)) (ps : Members)
    (m : List UInt16 × Json (List UInt16)) :
  setProperty (mapValues f ps) (m.1, f m.2) = mapValues f (setProperty ps m)
  := by
  simp only [setProperty, keys_mapValues]
  split
  · simp only [mapValues, List.map_map]
    apply List.map_congr_left
    intro p _
    simp only [Function.comp_apply]
    split
    · rfl
    · rfl
  · simp [mapValues]

theorem foldl_setProperty_mapValues (f : Json (List UInt16) → Json (List UInt16)) (ms ps : Members) :
  (mapValues f ms).foldl setProperty (mapValues f ps) = mapValues f (ms.foldl setProperty ps)
  := by
  induction ms generalizing ps with
  | nil => rfl
  | cons m ms ih =>
      have hcons : mapValues f (m :: ms) = (m.1, f m.2) :: mapValues f ms := rfl
      rw [hcons, List.foldl_cons, setProperty_mapValues, ih, List.foldl_cons]

/-- A property that is given to an object has the value, and the others keep theirs. -/
theorem lookup_setProperty {ps : Members} (hnodup : (ps.map Prod.fst).Nodup)
    (m : List UInt16 × Json (List UInt16)) (name : List UInt16) :
  lookup (setProperty ps m) name = if m.1 = name then some m.2 else lookup ps name
  := by
  have hset : ((setProperty ps m).map Prod.fst).Nodup := by
    simpa using nodup_foldl_setProperty [m] hnodup
  apply Option.ext
  intro v
  rw [lookup_eq_some_iff hset]
  unfold setProperty
  split
  · rename_i hmem
    obtain ⟨p₀, hp₀, hname₀⟩ := List.mem_map.mp hmem
    split
    · rename_i hname
      rw [List.mem_map, Option.some.injEq]
      constructor
      · rintro ⟨p, hp, heq⟩
        split at heq
        · rw [heq]
        · rename_i hne
          rw [heq] at hne
          exact absurd hname.symm hne
      · rintro rfl
        refine ⟨p₀, hp₀, ?_⟩
        rw [if_pos hname₀, ← hname]
    · rename_i hname
      rw [lookup_eq_some_iff hnodup, List.mem_map]
      constructor
      · rintro ⟨p, hp, heq⟩
        split at heq
        · rw [heq] at hname
          exact absurd rfl hname
        · rw [← heq]
          exact hp
      · intro hp
        exact ⟨(name, v), hp, if_neg (Ne.symm hname)⟩
  · rename_i hnew
    rw [List.mem_append, List.mem_singleton]
    split
    · rename_i hname
      have hold : (name, v) ∉ ps := by
        intro hp
        apply hnew
        rw [hname]
        exact List.mem_map_of_mem hp
      rw [Option.some.injEq, or_iff_right hold, Prod.ext_iff]
      simp [hname, eq_comm]
    · rename_i hname
      rw [lookup_eq_some_iff hnodup, or_iff_left]
      rintro rfl
      exact hname rfl

theorem lookup_foldl_setProperty (ms : Members) (name : List UInt16) :
  lookup (ms.foldl setProperty []) name = lookup ms name
  := by
  induction ms using List.reverseRecOn with
  | nil => rfl
  | append_singleton ms m ih =>
      rw [List.foldl_append, List.foldl_cons, List.foldl_nil,
        lookup_setProperty (nodup_foldl_setProperty ms (show (List.map Prod.fst []).Nodup from List.nodup_nil)),
        lookup_append_singleton, ih]

/-! ### Properties in the order in which they are enumerated -/

/-- The properties whose names are indices, in the order of these. -/
def indexed (ps : Members) : Members :=
  (ps.filter fun p => (arrayIndex p.1).isSome).insertionSort
    fun p q => (arrayIndex p.1).getD 0 ≤ (arrayIndex q.1).getD 0

theorem properties_eq_append (ms : Members) :
  properties ms = indexed (ms.foldl setProperty [])
    ++ (ms.foldl setProperty []).filter fun p => (arrayIndex p.1).isNone
  := rfl

/-- Enumerating properties reorders them. -/
theorem properties_perm (ms : Members) : (properties ms).Perm (ms.foldl setProperty [])
  := by
  rw [properties_eq_append]
  have hsplit := List.filter_append_perm (fun p : List UInt16 × Json (List UInt16) =>
    (arrayIndex p.1).isSome) (ms.foldl setProperty [])
  have hnot : (fun p : List UInt16 × Json (List UInt16) => !(arrayIndex p.1).isSome)
      = fun p => (arrayIndex p.1).isNone := by
    funext p
    cases arrayIndex p.1 with
    | none => rfl
    | some _ => rfl
  rw [hnot] at hsplit
  exact ((List.perm_insertionSort _ _).append_right _).trans hsplit

theorem nodup_properties (ms : Members) : ((properties ms).map Prod.fst).Nodup
  := by
  apply ((properties_perm ms).map Prod.fst).nodup_iff.mpr
  exact nodup_foldl_setProperty ms List.nodup_nil

/-- A property has the value of the last member with its name. -/
theorem lookup_properties (ms : Members) (name : List UInt16) :
  lookup (properties ms) name = lookup ms name
  := by
  rw [lookup_perm (nodup_properties ms) (properties_perm ms), lookup_foldl_setProperty]

theorem properties_mapValues (f : Json (List UInt16) → Json (List UInt16)) (ms : Members) :
  properties (mapValues f ms) = mapValues f (properties ms)
  := by
  have hfold : (mapValues f ms).foldl setProperty [] = mapValues f (ms.foldl setProperty []) :=
    foldl_setProperty_mapValues f ms []
  have hindexed : indexed (mapValues f (ms.foldl setProperty []))
      = mapValues f (indexed (ms.foldl setProperty [])) := by
    rw [indexed, indexed, mapValues, mapValues, List.filter_map]
    symm
    apply List.map_insertionSort
    intro p _ q _
    exact Iff.rfl
  rw [properties_eq_append, properties_eq_append, hfold, hindexed]
  simp only [mapValues, List.map_append, List.filter_map]
  rfl

/-- Enumerating properties that are in order changes nothing. -/
theorem properties_properties (ms : Members) : properties (properties ms) = properties ms
  := by
  have hfold : (properties ms).foldl setProperty [] = properties ms :=
    foldl_setProperty (nodup_properties ms)
  have hsome : ∀ p ∈ indexed (ms.foldl setProperty []), (arrayIndex p.1).isSome = true := by
    intro p hp
    exact (List.mem_filter.mp ((List.mem_insertionSort _).mp hp)).2
  have hnone : ∀ p ∈ (ms.foldl setProperty []).filter fun p => (arrayIndex p.1).isNone,
      (arrayIndex p.1).isNone = true := fun p hp => (List.mem_filter.mp hp).2
  rw [properties_eq_append (properties ms), hfold, indexed, properties_eq_append]
  generalize hindexed : indexed (ms.foldl setProperty []) = ps at hsome
  generalize (ms.foldl setProperty []).filter (fun p => (arrayIndex p.1).isNone) = qs at hnone
  have hps : (ps ++ qs).filter (fun p => (arrayIndex p.1).isSome) = ps := by
    rw [List.filter_append, List.filter_eq_self.mpr hsome, List.filter_eq_nil_iff.mpr,
      List.append_nil]
    intro p hp hpsome
    have hpnone := hnone p hp
    rw [Option.isNone_iff_eq_none] at hpnone
    rw [hpnone] at hpsome
    cases hpsome
  have hqs : (ps ++ qs).filter (fun p => (arrayIndex p.1).isNone) = qs := by
    rw [List.filter_append, List.filter_eq_self.mpr hnone, List.filter_eq_nil_iff.mpr,
      List.nil_append]
    intro p hp hpnone
    have hpsome := hsome p hp
    rw [Option.isNone_iff_eq_none] at hpnone
    rw [hpnone] at hpsome
    cases hpsome
  have hsorted : ps.insertionSort
      (fun p q => (arrayIndex p.1).getD 0 ≤ (arrayIndex q.1).getD 0) = ps := by
    apply List.Pairwise.insertionSort_eq
    rw [← hindexed]
    apply List.pairwise_insertionSort
  rw [hps, hqs, hsorted]

/-! ### Traversals -/

mutual

/-- The value with its numbers replaced, and the members of its objects put in an order. -/
def resolve (num : List Char → Json (List UInt16)) (order : Members → Members) :
    Json (List UInt16) → Json (List UInt16)
  | .null => .null
  | .bool b => .bool b
  | .num l => num l
  | .str s => .str s
  | .arr vs => .arr (resolveItems num order vs)
  | .obj ms => .obj (order (resolveMembers num order ms))

/-- The items of an array, resolved. -/
def resolveItems (num : List Char → Json (List UInt16)) (order : Members → Members) :
    List (Json (List UInt16)) → List (Json (List UInt16))
  | [] => []
  | v :: vs => resolve num order v :: resolveItems num order vs

/-- The members of an object, with their values resolved. -/
def resolveMembers (num : List Char → Json (List UInt16)) (order : Members → Members) :
    Members → Members
  | [] => []
  | (k, v) :: ms => (k, resolve num order v) :: resolveMembers num order ms

end

variable {num num' : List Char → Json (List UInt16)} {order order' : Members → Members}

theorem resolveMembers_eq (ms : Members) :
  resolveMembers num order ms = mapValues (resolve num order) ms
  := by
  induction ms with
  | nil => rfl
  | cons m ms ih =>
      rw [resolveMembers, ih]
      rfl

/-- An order of members that does not look at their values. -/
def Natural (order : Members → Members) : Prop :=
  ∀ (f : Json (List UInt16) → Json (List UInt16)) ms, order (mapValues f ms) = mapValues f (order ms)

mutual

/-- Two traversals are one. -/
theorem resolve_resolve (hnatural : Natural order') :
    ∀ v, resolve num order (resolve num' order' v)
      = resolve (fun l => resolve num order (num' l)) (order ∘ order') v
  | .null => rfl
  | .bool _ => rfl
  | .num _ => rfl
  | .str _ => rfl
  | .arr vs => by rw [resolve, resolve, resolve, resolveItems_resolve hnatural]
  | .obj ms => by
      rw [resolve, resolve, resolve, resolveMembers_eq, ← hnatural, ← resolveMembers_eq,
        resolveMembers_resolve hnatural, Function.comp_apply]

theorem resolveItems_resolve (hnatural : Natural order') :
    ∀ vs, resolveItems num order (resolveItems num' order' vs)
      = resolveItems (fun l => resolve num order (num' l)) (order ∘ order') vs
  | [] => rfl
  | v :: vs => by
      rw [resolveItems, resolveItems, resolveItems, resolve_resolve hnatural,
        resolveItems_resolve hnatural]

theorem resolveMembers_resolve (hnatural : Natural order') :
    ∀ ms, resolveMembers num order (resolveMembers num' order' ms)
      = resolveMembers (fun l => resolve num order (num' l)) (order ∘ order') ms
  | [] => rfl
  | (k, v) :: ms => by
      rw [resolveMembers, resolveMembers, resolveMembers, resolve_resolve hnatural,
        resolveMembers_resolve hnatural]

end

mutual

/-- What holds of the numbers in a value and of the members of its objects. -/
def Every (num : List Char → Prop) (members : Members → Prop) : Json (List UInt16) → Prop
  | .null | .bool _ | .str _ => True
  | .num l => num l
  | .arr vs => EveryItem num members vs
  | .obj ms => members ms ∧ EveryMember num members ms

/-- What holds of the numbers in the items and of the members of their objects. -/
def EveryItem (num : List Char → Prop) (members : Members → Prop) : List (Json (List UInt16)) → Prop
  | [] => True
  | v :: vs => Every num members v ∧ EveryItem num members vs

/-- What holds of the numbers in the members and of the members of their objects. -/
def EveryMember (num : List Char → Prop) (members : Members → Prop) : Members → Prop
  | [] => True
  | (_, v) :: ms => Every num members v ∧ EveryMember num members ms

end

theorem everyMember_iff {num : List Char → Prop} {members : Members → Prop} {ms : Members} :
  EveryMember num members ms ↔ ∀ m ∈ ms, Every num members m.2
  := by
  induction ms with
  | nil => simp [EveryMember]
  | cons m ms ih => rw [EveryMember, ih, List.forall_mem_cons]

/-! ### What is written -/

/-- The value as it is written and read again. -/
def written (v : Json (List UInt16)) : Json (List UInt16) :=
  resolve (fun l => if isFinite l then .num (JsNumber.toString l) else .null) properties v

/-- The value with each property of its objects once. -/
def settled (v : Json (List UInt16)) : Json (List UInt16) :=
  resolve .num properties v

/-- The numbers in a value are not infinite. -/
def Finite (v : Json (List UInt16)) : Prop :=
  Every (fun l => isFinite l = true) (fun _ => True) (settled v)

/-- The properties of an object, in the order of their names. -/
def sorted (ms : Members) : Members :=
  (properties ms).insertionSort fun p q => p.1 ≤ q.1

/-- The value with each number as its text and the properties in the order of their names. -/
def canonical (v : Json (List UInt16)) : Json (List UInt16) :=
  resolve (fun l => .num (JsNumber.toString l)) sorted v

/-- Two values are equal, item by item and property by property. -/
def DeepEqual (v w : Json (List UInt16)) : Prop :=
  canonical v = canonical w

theorem resolve_settled (v : Json (List UInt16)) (num : List Char → Json (List UInt16))
    (order : Members → Members) :
  resolve num order (settled v) = resolve num (order ∘ properties) v
  := by
  rw [settled, resolve_resolve properties_mapValues]
  rfl

theorem written_eq (v : Json (List UInt16)) :
  written v
    = resolve (fun l => if isFinite l then .num (JsNumber.toString l) else .null) id (settled v)
  := by
  rw [resolve_settled]
  rfl

theorem canonical_eq (v : Json (List UInt16)) :
  canonical v = resolve (fun l => .num (JsNumber.toString l)) sorted (settled v)
  := by
  have hsorted : sorted ∘ properties = sorted := by
    funext ms
    simp only [Function.comp_apply, sorted, properties_properties]
  rw [resolve_settled, hsorted]
  rfl

mutual

/-- Enumerating is a traversal. -/
theorem enumerated_eq (numbers : Numbers) :
    ∀ v, enumerated numbers v = resolve (fun l => .num (numbers.toText l)) properties v
  | .null => rfl
  | .bool _ => rfl
  | .num _ => rfl
  | .str _ => rfl
  | .arr vs => by rw [enumerated, resolve, enumeratedItems_eq]
  | .obj ms => by rw [enumerated, resolve, enumeratedMembers_eq]

theorem enumeratedItems_eq (numbers : Numbers) :
    ∀ vs, enumeratedItems numbers vs = resolveItems (fun l => .num (numbers.toText l)) properties vs
  | [] => rfl
  | v :: vs => by rw [enumeratedItems, resolveItems, enumerated_eq, enumeratedItems_eq]

theorem enumeratedMembers_eq (numbers : Numbers) :
    ∀ ms, enumeratedMembers numbers ms
      = resolveMembers (fun l => .num (numbers.toText l)) properties ms
  | [] => rfl
  | (k, v) :: ms => by rw [enumeratedMembers, resolveMembers, enumerated_eq, enumeratedMembers_eq]

end

mutual

/-- Values with numbers that are written alike are written alike. -/
theorem print_resolve {quote : List UInt16 → List Char}
    (h : ∀ l, (num l).print quote = (num' l).print quote) :
    ∀ v, (resolve num id v).print quote = (resolve num' id v).print quote
  | .null => rfl
  | .bool _ => rfl
  | .num l => h l
  | .str _ => rfl
  | .arr vs => by rw [resolve, resolve, print, print, printItems_resolve h]
  | .obj ms => by rw [resolve, resolve, print, print, id, id, printMembers_resolve h]

theorem printItems_resolve {quote : List UInt16 → List Char}
    (h : ∀ l, (num l).print quote = (num' l).print quote) :
    ∀ vs, printItems quote (resolveItems num id vs) = printItems quote (resolveItems num' id vs)
  | [] => rfl
  | [v] => by simp only [resolveItems, printItems, print_resolve h v]
  | v :: w :: vs => by
      have hrest := printItems_resolve h (w :: vs)
      rw [resolveItems, resolveItems] at hrest
      simp only [resolveItems, printItems, print_resolve h v, hrest]

theorem printMembers_resolve {quote : List UInt16 → List Char}
    (h : ∀ l, (num l).print quote = (num' l).print quote) :
    ∀ ms, printMembers quote (resolveMembers num id ms) = printMembers quote (resolveMembers num' id ms)
  | [] => rfl
  | [(k, v)] => by simp only [resolveMembers, printMembers, print_resolve h v]
  | (k, v) :: (k', w) :: ms => by
      have hrest := printMembers_resolve h ((k', w) :: ms)
      rw [resolveMembers, resolveMembers] at hrest
      simp only [resolveMembers, printMembers, print_resolve h v, hrest]

end

/-- `JSON.stringify` writes the value as it is read again. -/
theorem stringify_eq (v : Json (List UInt16)) : stringify jsNumbers v = JsJson.stringify (written v)
  := by
  rw [stringify, JsJson.stringify, JsJson.stringify, enumerated_eq, written_eq,
    show properties = id ∘ properties from rfl, ← resolve_settled]
  apply print_resolve
  intro l
  unfold jsNumbers
  dsimp only
  split
  · rfl
  · rfl

mutual

/-- The numbers that are written are numbers. -/
theorem valid_resolve (h : ∀ l, (num l).Valid) :
    ∀ v, (resolve num id v).Valid
  | .null => trivial
  | .bool _ => trivial
  | .num l => h l
  | .str _ => trivial
  | .arr vs => by
      rw [resolve, Valid]
      exact validItems_resolve h vs
  | .obj ms => by
      rw [resolve, Valid]
      exact validMembers_resolve h ms

theorem validItems_resolve (h : ∀ l, (num l).Valid) : ∀ vs, ValidItems (resolveItems num id vs)
  | [] => trivial
  | v :: vs => ⟨valid_resolve h v, validItems_resolve h vs⟩

theorem validMembers_resolve (h : ∀ l, (num l).Valid) : ∀ ms, ValidMembers (resolveMembers num id ms)
  | [] => trivial
  | (_, v) :: ms => ⟨valid_resolve h v, validMembers_resolve h ms⟩

end

theorem valid_written (v : Json (List UInt16)) : (written v).Valid
  := by
  rw [written_eq]
  apply valid_resolve
  intro l
  split
  · rename_i hfinite
    obtain ⟨q, hq⟩ := Option.isSome_iff_exists.mp hfinite
    exact (JsNumber.toString_spec hq).2.1
  · trivial

/-- What `JSON.stringify` writes is read again. -/
theorem parse_stringify (v : Json (List UInt16)) :
  parse (utf16 (stringify jsNumbers v)) = some (written v)
  := by
  rw [parse_utf16, stringify_eq, JsJson.parse_stringify (valid_written v)]

/-- The items of an array are written one by one. -/
theorem written_arr (vs : List (Json (List UInt16))) : written (.arr vs) = .arr (vs.map written)
  := by
  have hitems : ∀ vs, resolveItems (fun l => if isFinite l then .num (JsNumber.toString l) else .null)
      properties vs = vs.map written := by
    intro vs
    induction vs with
    | nil => rfl
    | cons v vs ih =>
        rw [resolveItems, ih]
        rfl
  rw [written, resolve, hitems]

/-- The properties of an object are written one by one. -/
theorem written_obj (ms : Members) : written (.obj ms) = .obj (mapValues written (properties ms))
  := by
  rw [written, resolve, resolveMembers_eq, properties_mapValues]
  rfl

theorem get_written (v : Json (List UInt16)) (name : String) :
  JsJson.get (written v) name = (JsJson.get v name).map written
  := by
  cases v with
  | obj ms => rw [written_obj, get_obj, get_obj, lookup_mapValues, lookup_properties]
  | num l =>
      rw [written, resolve]
      split
      · rfl
      · rfl
  | null => rfl
  | bool b => rfl
  | str s => rfl
  | arr vs => rfl

/-- Sorting properties keeps their values. -/
theorem lookup_sorted (ms : Members) (name : List UInt16) : lookup (sorted ms) name = lookup ms name
  := by
  have hperm : (sorted ms).Perm (properties ms) := List.perm_insertionSort _ _
  have hnodup : ((sorted ms).map Prod.fst).Nodup :=
    (hperm.map Prod.fst).nodup_iff.mpr (nodup_properties ms)
  rw [lookup_perm hnodup hperm, lookup_properties]

/-- A number that is not infinite is not infinite when it is read again. -/
theorem isFinite_toString {l : List Char} (h : isFinite l = true) :
  isFinite (JsNumber.toString l) = true ∧ JsNumber.toString (JsNumber.toString l) = JsNumber.toString l
  := by
  obtain ⟨q, hq⟩ := Option.isSome_iff_exists.mp h
  have hread := (JsNumber.toString_spec hq).2.2
  exact ⟨Option.isSome_iff_exists.mpr ⟨q, hread⟩, JsNumber.toString_toString hq⟩

/-- A value that was written and read is written as it is. -/
theorem written_written (v : Json (List UInt16)) : written (written v) = written v
  := by
  have horder : properties ∘ properties = properties := by
    funext ms
    exact properties_properties ms
  have hnum : (fun l => written (if isFinite l then .num (JsNumber.toString l) else .null))
      = fun l => if isFinite l then .num (JsNumber.toString l) else .null := by
    funext l
    split
    · rename_i hfinite
      obtain ⟨hagain, hsame⟩ := isFinite_toString hfinite
      rw [written, resolve, if_pos hagain, hsame]
    · rfl
  calc written (written v)
      = resolve (fun l => written (if isFinite l then .num (JsNumber.toString l) else .null))
          (properties ∘ properties) v := resolve_resolve properties_mapValues v
    _ = written v := by rw [horder, hnum, written]

theorem get_canonical (v : Json (List UInt16)) (name : String) :
  JsJson.get (canonical v) name = (JsJson.get v name).map canonical
  := by
  cases v with
  | obj ms =>
      rw [canonical, resolve, get_obj, get_obj, lookup_sorted, resolveMembers_eq, lookup_mapValues]
      rfl
  | null => rfl
  | bool b => rfl
  | num l => rfl
  | str s => rfl
  | arr vs => rfl

/-! ### What stays the same -/

mutual

/-- Finite numbers have the same text when they are read again. -/
theorem canonical_of_finite {members : Members → Prop} (order : Members → Members) :
    ∀ v, Every (fun l => isFinite l = true) members v →
      resolve (fun l => .num (JsNumber.toString l)) order
          (resolve (fun l => if isFinite l then .num (JsNumber.toString l) else .null) id v)
        = resolve (fun l => .num (JsNumber.toString l)) order v
  | .null, _ => rfl
  | .bool _, _ => rfl
  | .num l, h => by
      have hfinite : isFinite l = true := h
      obtain ⟨q, hq⟩ := Option.isSome_iff_exists.mp hfinite
      simp only [resolve, hfinite, if_true, JsNumber.toString_toString hq]
  | .str _, _ => rfl
  | .arr vs, h => by
      rw [resolve, resolve, resolve, canonicalItems_of_finite order vs h]
  | .obj ms, h => by
      rw [resolve, resolve, resolve, id, canonicalMembers_of_finite order ms h.2]

theorem canonicalItems_of_finite {members : Members → Prop} (order : Members → Members) :
    ∀ vs, EveryItem (fun l => isFinite l = true) members vs →
      resolveItems (fun l => .num (JsNumber.toString l)) order
          (resolveItems (fun l => if isFinite l then .num (JsNumber.toString l) else .null) id vs)
        = resolveItems (fun l => .num (JsNumber.toString l)) order vs
  | [], _ => rfl
  | v :: vs, h => by
      simp only [resolveItems, canonical_of_finite order v h.1, canonicalItems_of_finite order vs h.2]

theorem canonicalMembers_of_finite {members : Members → Prop} (order : Members → Members) :
    ∀ ms, EveryMember (fun l => isFinite l = true) members ms →
      resolveMembers (fun l => .num (JsNumber.toString l)) order
          (resolveMembers (fun l => if isFinite l then .num (JsNumber.toString l) else .null) id ms)
        = resolveMembers (fun l => .num (JsNumber.toString l)) order ms
  | [], _ => rfl
  | (k, v) :: ms, h => by
      simp only [resolveMembers, canonical_of_finite order v h.1,
        canonicalMembers_of_finite order ms h.2]

end

/-- The names of the members of the objects in a value are different. -/
def Settled (v : Json (List UInt16)) : Prop :=
  Every (fun _ => True) (fun ms => (ms.map Prod.fst).Nodup) v

mutual

theorem settled_settled : ∀ v, Settled (settled v)
  | .null => trivial
  | .bool _ => trivial
  | .num _ => trivial
  | .str _ => trivial
  | .arr vs => settled_settledItems vs
  | .obj ms => by
      have hmembers := settled_settledMembers ms
      rw [settled, resolve]
      refine ⟨nodup_properties _, everyMember_iff.mpr ?_⟩
      rintro ⟨k, v⟩ hm
      have hlookup := (lookup_eq_some_iff (nodup_properties _)).mpr hm
      rw [lookup_properties, lookup, Option.map_eq_some_iff] at hlookup
      obtain ⟨m, hfind, rfl⟩ := hlookup
      exact everyMember_iff.mp hmembers m (List.mem_reverse.mp (List.mem_of_find?_eq_some hfind))

theorem settled_settledItems : ∀ vs,
    EveryItem (fun _ => True) (fun ms => (ms.map Prod.fst).Nodup) (resolveItems .num properties vs)
  | [] => trivial
  | v :: vs => ⟨settled_settled v, settled_settledItems vs⟩

theorem settled_settledMembers : ∀ ms,
    EveryMember (fun _ => True) (fun ms => (ms.map Prod.fst).Nodup) (resolveMembers .num properties ms)
  | [] => trivial
  | (_, v) :: ms => ⟨settled_settled v, settled_settledMembers ms⟩

end

mutual

/-- Numbers that have the same text when they are read again are finite. -/
theorem finite_of_canonical :
    ∀ v, Settled v →
      resolve (fun l => .num (JsNumber.toString l)) sorted
          (resolve (fun l => if isFinite l then .num (JsNumber.toString l) else .null) id v)
        = resolve (fun l => .num (JsNumber.toString l)) sorted v →
      Every (fun l => isFinite l = true) (fun _ => True) v
  | .null, _, _ => trivial
  | .bool _, _, _ => trivial
  | .num l, _, h => by
      rw [Every]
      by_contra hinfinite
      simp only [resolve, hinfinite, if_false] at h
      cases h
  | .str _, _, _ => trivial
  | .arr vs, hs, h => by
      rw [resolve, resolve, resolve] at h
      exact finiteItems_of_canonical vs hs (Json.arr.inj h)
  | .obj ms, hs, h => by
      obtain ⟨hnodup, hmembers⟩ := hs
      rw [resolve, resolve, resolve, id] at h
      refine ⟨trivial, finiteMembers_of_canonical ms hmembers ?_⟩
      rintro ⟨k, v⟩ hm
      have hlookup := (lookup_eq_some_iff hnodup).mpr hm
      have hsame := congrArg (fun ps => lookup ps k) (Json.obj.inj h)
      simp only [lookup_sorted, resolveMembers_eq, lookup_mapValues, hlookup, Option.map_some,
        Option.some.injEq] at hsame
      exact hsame

theorem finiteItems_of_canonical :
    ∀ vs, EveryItem (fun _ => True) (fun ms => (ms.map Prod.fst).Nodup) vs →
      resolveItems (fun l => .num (JsNumber.toString l)) sorted
          (resolveItems (fun l => if isFinite l then .num (JsNumber.toString l) else .null) id vs)
        = resolveItems (fun l => .num (JsNumber.toString l)) sorted vs →
      EveryItem (fun l => isFinite l = true) (fun _ => True) vs
  | [], _, _ => trivial
  | v :: vs, hs, h => by
      simp only [resolveItems, List.cons.injEq] at h
      exact ⟨finite_of_canonical v hs.1 h.1, finiteItems_of_canonical vs hs.2 h.2⟩

theorem finiteMembers_of_canonical :
    ∀ ms, EveryMember (fun _ => True) (fun ms => (ms.map Prod.fst).Nodup) ms →
      (∀ m ∈ ms, resolve (fun l => .num (JsNumber.toString l)) sorted
          (resolve (fun l => if isFinite l then .num (JsNumber.toString l) else .null) id m.2)
        = resolve (fun l => .num (JsNumber.toString l)) sorted m.2) →
      EveryMember (fun l => isFinite l = true) (fun _ => True) ms
  | [], _, _ => trivial
  | (k, v) :: ms, hs, h => by
      obtain ⟨hv, hms⟩ := List.forall_mem_cons.mp h
      exact ⟨finite_of_canonical v hs.1 hv, finiteMembers_of_canonical ms hs.2 hms⟩

end

/-- A value that is written and read again is the same exactly if its numbers are finite. -/
theorem deepEqual_written_iff (v : Json (List UInt16)) : DeepEqual (written v) v ↔ Finite v
  := by
  have hwritten : canonical (written v) = resolve (fun l => .num (JsNumber.toString l)) sorted
      (resolve (fun l => if isFinite l then .num (JsNumber.toString l) else .null) id (settled v)) := by
    rw [canonical, written_eq]
  rw [DeepEqual, hwritten, canonical_eq]
  constructor
  · exact finite_of_canonical (settled v) (settled_settled v)
  · exact canonical_of_finite sorted (settled v)

/-- Equal values have equal properties. -/
theorem DeepEqual.get {v w : Json (List UInt16)} (h : DeepEqual v w) (name : String) :
  (JsJson.get v name).map canonical = (JsJson.get w name).map canonical
  := by
  rw [← get_canonical, ← get_canonical, h]

/-- The numbers in a property of a value are among those in the value. -/
theorem Finite.get {v w : Json (List UInt16)} (h : Finite v) {name : String}
    (hw : JsJson.get v name = some w) :
  Finite w
  := by
  have hsame := ((deepEqual_written_iff v).mpr h).get name
  rw [get_written, hw, Option.map_some, Option.map_some, Option.map_some, Option.some.injEq] at hsame
  exact (deepEqual_written_iff w).mp hsame

mutual

/-- Where all numbers that are written down are finite, so are those in the value. -/
theorem finite_of_every :
    ∀ v, Every (fun l => isFinite l = true) (fun _ => True) v → Finite v
  | .null, _ => trivial
  | .bool _, _ => trivial
  | .num _, h => h
  | .str _, _ => trivial
  | .arr vs, h => finiteItems_of_every vs h
  | .obj ms, h => by
      have hmembers := everyMember_iff.mp (finiteMembers_of_every ms h.2)
      rw [Finite, settled, resolve]
      refine ⟨trivial, everyMember_iff.mpr ?_⟩
      rintro ⟨k, v⟩ hm
      have hlookup := (lookup_eq_some_iff (nodup_properties _)).mpr hm
      rw [lookup_properties, lookup, Option.map_eq_some_iff] at hlookup
      obtain ⟨m, hfind, rfl⟩ := hlookup
      exact hmembers m (List.mem_reverse.mp (List.mem_of_find?_eq_some hfind))

theorem finiteItems_of_every : ∀ vs, EveryItem (fun l => isFinite l = true) (fun _ => True) vs →
    EveryItem (fun l => isFinite l = true) (fun _ => True) (resolveItems .num properties vs)
  | [], _ => trivial
  | v :: vs, h => ⟨finite_of_every v h.1, finiteItems_of_every vs h.2⟩

theorem finiteMembers_of_every : ∀ ms, EveryMember (fun l => isFinite l = true) (fun _ => True) ms →
    EveryMember (fun l => isFinite l = true) (fun _ => True) (resolveMembers .num properties ms)
  | [], _ => trivial
  | (_, v) :: ms, h => ⟨finite_of_every v h.1, finiteMembers_of_every ms h.2⟩

end

end Paygate.Web
