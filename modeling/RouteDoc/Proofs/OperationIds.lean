import Mathlib.Data.List.DropRight
import RouteDoc.Proofs.DocumentAssembly

/-!
Operation ids. An id is a name, an underscore and a number, written one behind the other, and the name may be any
text: it may be empty, belong to several routes, or end like an id itself. Two operations of a document have
different ids all the same (`operation_id_eq_iff`).

The number decides. It can be read off an id whatever the name is, since no digit is an underscore (`idDigits_id`).
And the operations that a document lists have different numbers: each is the last registration for its place, and a
registration has one place (`LastAt.place_unique`).
-/

namespace RouteDoc

/-- What stands behind the last underscore of an id. -/
def idDigits (id : String) : List Char :=
  id.toList.rtakeWhile (· != '_')

/-- The digits of its number stand behind the last underscore of an id, whatever the name is. -/
theorem idDigits_id (config : DocumentConfig) (holder : RouteHolder) (number : Nat) :
    idDigits (Operation.ofRoute config holder number).id = Nat.toDigits 10 number := by
  have hid : (Operation.ofRoute config holder number).id.toList.reverse
      = (Nat.toDigits 10 number).reverse ++ '_' :: holder.operationName.toList.reverse := by
    simp [Operation.ofRoute]
  have hdigits : ∀ c ∈ (Nat.toDigits 10 number).reverse, (c != '_') = true := by
    intro c hc
    rw [bne_iff_ne]
    rintro rfl
    exact Nat.underscore_not_in_toDigits (List.mem_reverse.mp hc)
  rw [idDigits, List.rtakeWhile, hid, List.takeWhile_append_of_pos hdigits]
  simp

theorem number_eq_of_id_eq {config : DocumentConfig} {holder holder' : RouteHolder} {n n' : Nat}
    (h : (Operation.ofRoute config holder n).id = (Operation.ofRoute config holder' n').id) : n = n' := by
  have hdigits : Nat.toDigits 10 n = Nat.toDigits 10 n' := by
    rw [← idDigits_id config holder n, h, idDigits_id]
  calc n = Nat.ofDigitChars 10 (Nat.toDigits 10 n) 0 := Nat.ofDigitChars_ten_toDigits.symm
    _ = Nat.ofDigitChars 10 (Nat.toDigits 10 n') 0 := by rw [hdigits]
    _ = n' := Nat.ofDigitChars_ten_toDigits

namespace LastAt

variable {config : DocumentConfig} {rs : List (RouteHolder × String)} {place place' : String × String}
  {r r' : RouteHolder × String} {n n' : Nat}

theorem place_unique (h : LastAt config rs place n r) (h' : LastAt config rs place' n r') : place = place' := by
  have hsame : r = r' := Option.some.inj (h.numbered.symm.trans h'.numbered)
  rw [← h.placed, hsame, h'.placed]

theorem number_unique (h : LastAt config rs place n r) (h' : LastAt config rs place n' r') : n = n' := by
  rcases Nat.lt_trichotomy n n' with hlt | heq | hgt
  · exact absurd h'.placed (h.last n' r' hlt h'.numbered)
  · exact heq
  · exact absurd h.placed (h'.last n r hgt h.numbered)

end LastAt

/-- **Operation ids are unique.** Of the operations that a document lists, two have the same id exactly if they
stand at the same path and method, whatever the routes are called. -/
theorem operation_id_eq_iff (config : DocumentConfig) (holders : List RouteHolder) (place place' : String × String)
    (operation operation' : Operation) (h : (Document.build config holders).Lists place operation)
    (h' : (Document.build config holders).Lists place' operation') :
    operation.id = operation'.id ↔ place = place' := by
  obtain ⟨n, r, hlast, rfl⟩ := (lists_build_iff config holders place operation).mp h
  obtain ⟨n', r', hlast', rfl⟩ := (lists_build_iff config holders place' operation').mp h'
  constructor
  · intro hid
    obtain rfl := number_eq_of_id_eq hid
    exact hlast.place_unique hlast'
  · rintro rfl
    obtain rfl := hlast.number_unique hlast'
    obtain rfl : r = r' := Option.some.inj (hlast.numbered.symm.trans hlast'.numbered)
    rfl

/-- A route with two methods, and one whose name is the id of the second operation of the first. -/
def alikeHolders : List RouteHolder :=
  [{ route := "/a", methods := ["GET", "POST"], name := "F" }, { route := "/b", methods := ["GET"], name := "F_1" }]

/-- The operations at `/a` are `F_0` and `F_1`, and that at `/b` is `F_1_2`. -/
theorem operation_id_eq_iff_alike :
    ∃ operation operation', (Document.build {} alikeHolders).Lists ("/a", "post") operation ∧
      (Document.build {} alikeHolders).Lists ("/b", "get") operation' ∧ operation.id = "F_1" ∧
      operation.id ≠ operation'.id := by
  have hlength : (registrations alikeHolders).length = 3 := rfl
  have hsecond : LastAt {} (registrations alikeHolders) ("/a", "post") 1
      ({ route := "/a", methods := ["GET", "POST"], name := "F" }, "POST") := by
    refine ⟨rfl, by decide +kernel, fun k other hk hother => ?_⟩
    have hbound := (List.getElem?_eq_some_iff.mp hother).1
    obtain rfl : k = 2 := by omega
    rw [← Option.some.inj hother]
    decide +kernel
  have hthird : LastAt {} (registrations alikeHolders) ("/b", "get") 2
      ({ route := "/b", methods := ["GET"], name := "F_1" }, "GET") := by
    refine ⟨rfl, by decide +kernel, fun k other hk hother => ?_⟩
    have hbound := (List.getElem?_eq_some_iff.mp hother).1
    omega
  have hlists := (lists_build_iff {} alikeHolders _ _).mpr ⟨1, _, hsecond, rfl⟩
  have hlists' := (lists_build_iff {} alikeHolders _ _).mpr ⟨2, _, hthird, rfl⟩
  refine ⟨_, _, hlists, hlists', by decide +kernel, ?_⟩
  rw [Ne, operation_id_eq_iff {} alikeHolders _ _ _ _ hlists hlists']
  decide

end RouteDoc
