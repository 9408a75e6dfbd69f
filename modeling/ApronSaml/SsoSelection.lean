import ApronSaml.Metadata

/-!
# Selection of the single sign-on URL

The loop over the endpoints keeps, for each binding, the location of the first endpoint
whose location is a web URL. An endpoint is looked at only while its binding has no
location, and looking at it raises when its location cannot be parsed as a URL at all.
-/

namespace ApronSaml

open Raising Whitespace

variable {tables : Url.Tables}

/-- The stripped location of the first endpoint with this binding whose location is a web URL. -/
def firstUsable (tables : Url.Tables) (services : List SingleSignOnService) (binding : String) : Option String :=
  (services.find? fun service =>
    decide (service.binding = some binding) && decide (isHttpUrl tables service.strippedLocation = .ok true)).map
    SingleSignOnService.strippedLocation

/-- The loop looks at an endpoint after others: it has a binding, for which none of them is usable. -/
def Reached (tables : Url.Tables) (before : List SingleSignOnService) (service : SingleSignOnService) : Prop :=
  ∃ binding, service.binding = some binding ∧ binding ≠ "" ∧ firstUsable tables before binding = none

/-- The dictionary holds the first usable location of every binding among the endpoints seen so far. -/
def Holds (tables : Url.Tables) (locations : Locations) (past : List SingleSignOnService) : Prop :=
  ∀ binding, binding ≠ "" → locations.lookup binding = firstUsable tables past binding

/-- Before the loop there is nothing to hold. -/
theorem holds_empty : Holds tables ∅ [] := by
  intro binding _
  simp [firstUsable]

/-- One more endpoint counts only for a binding without a usable one before it. -/
theorem firstUsable_concat (past : List SingleSignOnService) (service : SingleSignOnService) (binding : String) :
    firstUsable tables (past ++ [service]) binding =
      (firstUsable tables past binding).or
        (if service.binding = some binding ∧ isHttpUrl tables service.strippedLocation = .ok true then
          some service.strippedLocation else none) := by
  rw [firstUsable, List.find?_append, Option.map_or, firstUsable]
  congr 1
  by_cases h : service.binding = some binding ∧ isHttpUrl tables service.strippedLocation = .ok true
  · simp [h]
  · rw [if_neg h]
    simpa using h

/-- The web URL test answers exactly when the location can be parsed. -/
theorem isHttpUrl_error_iff {location : String} {e : PyError} :
    isHttpUrl tables location = .error e ↔ urlparse tables location = .error e := by
  simp [isHttpUrl, bind_error_iff]

/-- Looking at an endpoint raises exactly when it is reached and its location cannot be parsed. -/
theorem addLocation_error_iff {locations : Locations} {past : List SingleSignOnService}
    {service : SingleSignOnService} {e : PyError} (h : Holds tables locations past) :
    addLocation tables locations service = .error e ↔
      Reached tables past service ∧ urlparse tables service.strippedLocation = .error e := by
  unfold addLocation Reached
  cases hbinding : service.binding with
  | none => simp
  | some binding =>
    simp only [Option.some.injEq, exists_eq_left']
    by_cases hskip : binding = "" ∨ binding ∈ locations
    · rw [if_pos hskip]
      refine ⟨fun hok => (by cases hok), fun ⟨⟨hne, hnone⟩, _⟩ => ?_⟩
      rw [← h binding hne, AList.lookup_eq_none] at hnone
      exact absurd hskip (not_or.mpr ⟨hne, hnone⟩)
    · rw [if_neg hskip, bind_error_iff, isHttpUrl_error_iff]
      obtain ⟨hne, hnew⟩ := not_or.mp hskip
      have hnone : firstUsable tables past binding = none := by rw [← h binding hne, AList.lookup_eq_none.mpr hnew]
      simp [hne, hnone]

/-- Looking at an endpoint keeps the dictionary at the first usable locations. -/
theorem Holds.addLocation {locations next : Locations} {past : List SingleSignOnService}
    {service : SingleSignOnService} (h : Holds tables locations past)
    (hrun : addLocation tables locations service = .ok next) : Holds tables next (past ++ [service]) := by
  intro other hother
  rw [firstUsable_concat, ← h other hother]
  unfold ApronSaml.addLocation at hrun
  cases hbinding : service.binding with
  | none =>
    simp only [hbinding, Except.ok.injEq] at hrun
    simp [hrun]
  | some binding =>
    simp only [hbinding] at hrun
    split at hrun
    · rename_i hskip
      rw [Except.ok.injEq] at hrun
      subst hrun
      by_cases hsame : binding = other
      · subst hsame
        have hheld : binding ∈ locations := hskip.resolve_left hother
        obtain ⟨location, hlocation⟩ := Option.isSome_iff_exists.mp (AList.lookup_isSome.mpr hheld)
        simp [hlocation]
      · simp [hsame]
    · rename_i hfresh
      rw [bind_ok_iff] at hrun
      obtain ⟨usable, husable, hnext⟩ := hrun
      rw [Except.ok.injEq] at hnext
      subst hnext
      by_cases hsame : binding = other
      · subst hsame
        have hnone : locations.lookup binding = none := AList.lookup_eq_none.mpr (not_or.mp hfresh).2
        cases usable <;> simp [husable, hnone]
      · cases usable <;> simp [hsame, AList.lookup_insert_ne (Ne.symm hsame)]

/-- The loop from a dictionary that holds the past raises exactly when it reaches an endpoint whose location
cannot be parsed. -/
theorem Holds.foldlM_error_iff {locations : Locations} {past services : List SingleSignOnService}
    (h : Holds tables locations past) :
    (∃ e, services.foldlM (ApronSaml.addLocation tables) locations = .error e) ↔
      ∃ before service after, services = before ++ service :: after ∧ Reached tables (past ++ before) service ∧
        ∃ e, urlparse tables service.strippedLocation = .error e := by
  induction services generalizing locations past with
  | nil => simp [pure, Except.pure]
  | cons service rest ih =>
    rw [List.foldlM_cons]
    cases hstep : ApronSaml.addLocation tables locations service with
    | error e =>
      obtain ⟨hreached, hparse⟩ := (addLocation_error_iff h).mp hstep
      exact ⟨fun _ => ⟨[], service, rest, rfl, by rwa [List.append_nil], e, hparse⟩, fun _ => ⟨e, rfl⟩⟩
    | ok next =>
      rw [ok_bind, ih (h.addLocation hstep)]
      constructor
      · intro hreach
        obtain ⟨before, other, after, rfl, hreached, hparse⟩ := hreach
        exact ⟨service :: before, other, after, rfl, by simpa using hreached, hparse⟩
      · intro hreach
        obtain ⟨before, other, after, hsplit, hreached, e, hparse⟩ := hreach
        cases before with
        | nil =>
          obtain ⟨rfl, rfl⟩ := List.cons.inj hsplit
          rw [List.append_nil] at hreached
          simp [(addLocation_error_iff h).mpr ⟨hreached, hparse⟩] at hstep
        | cons first before =>
          obtain ⟨rfl, rfl⟩ := List.cons.inj hsplit
          exact ⟨before, other, after, rfl, by simpa using hreached, e, hparse⟩

/-- A finished loop holds the first usable locations of all endpoints. -/
theorem Holds.foldlM {locations final : Locations} {past services : List SingleSignOnService}
    (h : Holds tables locations past)
    (hrun : services.foldlM (ApronSaml.addLocation tables) locations = .ok final) :
    Holds tables final (past ++ services) := by
  induction services generalizing locations past with
  | nil =>
    simp only [List.foldlM_nil, pure, Except.pure, Except.ok.injEq] at hrun
    rwa [List.append_nil, ← hrun]
  | cons service rest ih =>
    rw [List.foldlM_cons, bind_ok_iff] at hrun
    obtain ⟨next, hstep, hrest⟩ := hrun
    simpa using ih (h.addLocation hstep) hrest

/-- The endpoints of all roles, in document order. -/
def endpoints (idpRoles : List IDPSSODescriptor) : List SingleSignOnService :=
  idpRoles.flatMap IDPSSODescriptor.singleSignOnService

/-- The first usable location of the preferred binding that has one. -/
def preferredUsable (tables : Url.Tables) (services : List SingleSignOnService) : Option String :=
  (firstUsable tables services bindingHttpRedirect).or (firstUsable tables services bindingHttpPost)

/-- Some endpoint that the loop reaches has a location that cannot be parsed as a URL. -/
def ReachesMalformed (tables : Url.Tables) (services : List SingleSignOnService) : Prop :=
  ∃ before service after, services = before ++ service :: after ∧ Reached tables before service ∧
    ∃ e, urlparse tables service.strippedLocation = .error e

/-- The preference over the dictionary's bindings is the preference over the endpoints. -/
theorem Holds.findSome?_lookup {locations : Locations} {services : List SingleSignOnService}
    (h : Holds tables locations services) :
    (ssoBindingPreference.findSome? fun binding => locations.lookup binding) = preferredUsable tables services := by
  rw [preferredUsable, ← h bindingHttpRedirect (by decide), ← h bindingHttpPost (by decide)]
  simp only [ssoBindingPreference, List.findSome?_cons, List.findSome?_nil]
  cases locations.lookup bindingHttpRedirect <;> cases locations.lookup bindingHttpPost <;> rfl

/-- URL parsing raises only a `ValueError`. -/
theorem urlparse_raisesOnly (value : String) :
    RaisesOnly (fun e => ∃ message, e = .valueError message) (urlparse tables value) := by
  intro e h
  rw [urlparse] at h
  cases hsplit : Url.urlsplit tables value with
  | ok parts => simp [hsplit, Except.mapError] at h
  | error failure =>
    simp only [hsplit, Except.mapError, Except.error.injEq] at h
    exact ⟨_, h.symm⟩

/-- Looking at an endpoint raises only a `ValueError`. -/
theorem addLocation_raisesOnly (locations : Locations) (service : SingleSignOnService) :
    RaisesOnly (fun e => ∃ message, e = .valueError message) (addLocation tables locations service) := by
  unfold addLocation
  split
  · exact RaisesOnly.ok _
  split
  · exact RaisesOnly.ok _
  · refine RaisesOnly.bind ?_ fun _ _ => RaisesOnly.ok _
    exact RaisesOnly.bind (urlparse_raisesOnly _) fun _ _ => RaisesOnly.ok _

/-- The error of a selection that finds no endpoint. -/
def noSsoEndpoint : PyError :=
  .metadata ("IdP metadata has no HTTP-Redirect or HTTP-POST single sign-on endpoint with an absolute " ++
    "http or https location")

/-- The selection escapes by an unparseable location, or else returns the preferred usable location, or else
raises a `MetadataError`. -/
theorem selectSsoUrl_cases (tables : Url.Tables) (idpRoles : List IDPSSODescriptor) :
    (ReachesMalformed tables (endpoints idpRoles) ∧
      ∃ message, selectSsoUrl tables idpRoles = .error (.valueError message)) ∨
    (¬ ReachesMalformed tables (endpoints idpRoles) ∧
      ((∃ location, preferredUsable tables (endpoints idpRoles) = some location ∧
        selectSsoUrl tables idpRoles = .ok location) ∨
      (preferredUsable tables (endpoints idpRoles) = none ∧ selectSsoUrl tables idpRoles = .error noSsoEndpoint))) := by
  have hempty : Holds tables ∅ [] := holds_empty
  have hloop : (∃ e, (endpoints idpRoles).foldlM (addLocation tables) ∅ = .error e) ↔
      ReachesMalformed tables (endpoints idpRoles) := by
    simpa only [ReachesMalformed, List.nil_append] using hempty.foldlM_error_iff
  rw [selectSsoUrl, ← foldlM_flatMap, ← endpoints]
  cases hrun : (endpoints idpRoles).foldlM (addLocation tables) ∅ with
  | error e =>
    obtain ⟨message, rfl⟩ := RaisesOnly.foldlM addLocation_raisesOnly (endpoints idpRoles) ∅ e hrun
    exact Or.inl ⟨hloop.mp ⟨_, hrun⟩, message, rfl⟩
  | ok locations =>
    have hheld : Holds tables locations (endpoints idpRoles) := by simpa using holds_empty.foldlM hrun
    refine Or.inr ⟨fun hmalformed => ?_, ?_⟩
    · obtain ⟨e, herror⟩ := hloop.mpr hmalformed
      simp [hrun] at herror
    · rw [ok_bind, hheld.findSome?_lookup]
      cases hpreferred : preferredUsable tables (endpoints idpRoles) with
      | none => exact Or.inr ⟨rfl, rfl⟩
      | some location => exact Or.inl ⟨location, rfl, rfl⟩

end ApronSaml
