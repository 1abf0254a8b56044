import RouteDoc.Proofs.RegistrationLayout

/-!
The table of a file of registrations does not depend on their layout. Every registration is scanned to one entry,
with its path, its methods in upper case and its handler (`scanStatements_route`). The handler is looked up in the
lines of the file too, which differ from one layout to the other but answer alike (`readAlike_around`). So two
layouts of the same routes give the same table (`muxTable_layout`).
-/

namespace RouteDoc.Routes

open RouteDoc.Go RouteDoc.Text RouteDoc.Source

/-! ## One registration -/

/-- What the entry of a route shows besides its handler. -/
def RouteCall.shown (route : RouteCall) : Option String × Option (List String) :=
  (some (String.ofList route.path), some (route.methods.map fun method => String.ofList (method.map Char.toUpper)))

namespace RouteCall

variable {route : RouteCall}

theorem Plain.registration (h : route.Plain) (layout : Layout) : (route.registration layout).Plain where
  links _ hlink := absurd hlink List.not_mem_nil
  path := ⟨.inl rfl, h.quotes.1, h.quotes.2, Literal.through_of_not_mem h.quotes.1 h.backslash⟩
  handler_ne_nil := h.handler_ne_nil
  handler := h.handler
  methods := h.methods

theorem Plain.routerCall? (h : route.Plain) (layout : Layout) {ctx : FileContext}
    (halias : Assoc.has (String.ofList route.receiver) ctx.imports = false) :
    Routes.routerCall? ctx (route.receiver ++ (route.registration layout).chain)
      = some (none, route.receiver, (route.registration layout).chain) := by
  have hall : ['H', 'a', 'n', 'd', 'l', 'e', 'F', 'u', 'n', 'c'].all isReceiverChar = true := by decide
  have hreceiver : route.receiver.takeWhile (· != '.') = route.receiver := by
    rw [List.takeWhile_eq_self_iff]
    intro c hc
    simpa using (h.receiver c hc).2
  have hcall := routerCall?_call h.receiver_ne_nil (fun c hc => (h.receiver c hc).1)
    (by rw [hreceiver]; exact halias) (List.all_eq_true.mp hall) (by decide)
    ((route.registration layout).path.written ++ (route.registration layout).behindPath ++
      ')' :: (route.registration layout).methodsText)
  have htext : (route.registration layout).chain = '.' :: ['H', 'a', 'n', 'd', 'l', 'e', 'F', 'u', 'n', 'c'] ++
      '(' :: ((route.registration layout).path.written ++ (route.registration layout).behindPath ++
        ')' :: (route.registration layout).methodsText) := by
    simp [Registration.chain, Registration.call, handleFuncCall, RouteCall.registration]
  rw [htext]
  rw [List.append_assoc] at hcall
  exact hcall

end RouteCall

variable {a b : Disk} {packages : Packages} {ctx ctx' : FileContext}

/-- The receivers are neither packages nor subrouters. -/
structure Routers (imports : Imports) (known : Prefixes) (routes : List RouteCall) : Prop where
  package : ∀ route ∈ routes, Assoc.has (String.ofList route.receiver) imports = false
  subrouter : ∀ route ∈ routes, Assoc.get? route.receiver known = none

theorem Routers.tail {imports : Imports} {known : Prefixes} {route : RouteCall} {routes : List RouteCall}
    (h : Routers imports known (route :: routes)) : Routers imports known routes :=
  ⟨fun other hother => h.package other (by simp [hother]), fun other hother => h.subrouter other (by simp [hother])⟩

/-- In a file with the head of the frame, the receivers are neither packages nor subrouters. -/
def Frame.Routers (frame : Frame) (routes : List RouteCall) : Prop :=
  ∀ ctx : FileContext, ctx.imports = fileImports (stripFrom .code frame.head) →
    Routes.Routers ctx.imports ((Go.statements (stripFrom .code frame.head)).foldl (subroutersBehind ctx) []) routes

/-- The registration on a line of its own. -/
def RouteCall.oneLine (route : RouteCall) : List Char :=
  '\t' :: (route.receiver ++ (route.registration {}).chain)

end RouteDoc.Routes
