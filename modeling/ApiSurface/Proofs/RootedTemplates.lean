import ApiSurface.Proofs.TemplateScanning
import ApiSurface.Proofs.VoidResponses

/-!
# Rooted templates

The paths that a controller and its methods are mapped to are empty or begin with a slash, and so is
the URL that they make up. Its template begins as the URL does, but what is left of the URL without
the start that the settings remove begins with a slash only if a segment of the path ends there.
-/

namespace ApiSurface

/-- The path is empty or begins with a slash. -/
def Rooted (path : String) : Prop := path = "" ∨ path.toList.head? = some '/'

instance (path : String) : Decidable (Rooted path) :=
  inferInstanceAs (Decidable (path = "" ∨ path.toList.head? = some '/'))

theorem rooted_iff {path : String} : Rooted path ↔ ∀ c ∈ path.toList.head?, c = '/' := by
  rw [Rooted, ← String.toList_eq_nil_iff]
  cases path.toList <;> simp

theorem Rooted.append {path rest : String} (hpath : Rooted path) (hrest : Rooted rest) :
    Rooted (path ++ rest) := by
  rw [rooted_iff] at hpath hrest ⊢
  intro c hc
  rw [String.toList_append, List.head?_append] at hc
  cases hhead : path.toList.head? with
  | none =>
    rw [hhead] at hc
    exact hrest c hc
  | some first =>
    rw [hhead] at hc
    cases hc
    exact hpath c hhead

theorem rooted_of_startsWith {path : String} (h : path.startsWith "/" = true) : Rooted path := by
  obtain ⟨rest, hrest⟩ := String.startsWith_string_iff.mp h
  right
  rw [← hrest]
  rfl

theorem rooted_mappingPath (classes : ClassCollection) (annotations : List AnnotationUse) :
    Rooted (classes.mappingPath annotations) := by
  unfold ClassCollection.mappingPath
  dsimp only
  split
  · exact .inl rfl
  · split_ifs with hpath
    · rcases Bool.or_eq_true_iff.mp hpath with hempty | hslash
      · exact .inl (String.isEmpty_iff.mp hempty)
      · exact rooted_of_startsWith hslash
    · right
      rw [String.toList_append]
      rfl

namespace Settings

variable {settings : Settings} {url : String}

/-- The URL does not have the start that is removed, or behind it the URL ends or a segment of its
path begins. -/
def RemovesSegments (settings : Settings) (url : String) : Prop :=
  ∀ rest, url = settings.removedUrlPrefix ++ rest → Rooted rest

theorem normalizeUrl_append (settings : Settings) (rest : String) :
    settings.normalizeUrl (settings.removedUrlPrefix ++ rest) = rest := by
  simp [normalizeUrl]

theorem normalizeUrl_of_ne (h : ∀ rest, url ≠ settings.removedUrlPrefix ++ rest) :
    settings.normalizeUrl url = url := by
  unfold normalizeUrl
  rw [if_neg]
  intro hprefix
  obtain ⟨rest, hrest⟩ := List.isPrefixOf_iff_prefix.mp hprefix
  apply h (String.ofList rest)
  apply String.toList_inj.mp
  rw [String.toList_append, String.toList_ofList, hrest]

theorem rooted_normalizeUrl_iff (hurl : Rooted url) :
    Rooted (settings.normalizeUrl url) ↔ settings.RemovesSegments url := by
  by_cases h : ∃ rest, url = settings.removedUrlPrefix ++ rest
  · obtain ⟨rest, rfl⟩ := h
    rw [normalizeUrl_append]
    constructor
    · intro hrest other hother
      rw [String.append_right_inj] at hother
      exact hother ▸ hrest
    · intro hremoves
      exact hremoves rest rfl
  · have hne : ∀ rest, url ≠ settings.removedUrlPrefix ++ rest := by simpa using h
    rw [normalizeUrl_of_ne hne]
    exact iff_of_true hurl fun rest hrest => absurd hrest (hne rest)

end Settings

namespace UriTemplate

/-- Without constraints a template begins with the same character. -/
theorem Strips.head?_eq {text result : List Char} (h : Strips text result) :
    result.head? = text.head? := by
  cases h <;> rfl

theorem rooted_parse_iff {template result : String} (h : parse template = .ok result) :
    Rooted result ↔ Rooted template := by
  have hstrips := plain_eq_some_iff.mp (parse_eq_ok_iff.mp h)
  rw [rooted_iff, rooted_iff, hstrips.head?_eq]

end UriTemplate

namespace Survey

open Controllers Describing

/-- The path of a controller's method. -/
def url (survey : Survey) (controller : JavaClass) (method : JavaMethod) : String :=
  survey.classes.mappingPath controller.annotations ++
    survey.classes.mappingPath method.annotations

theorem rooted_url (survey : Survey) (controller : JavaClass) (method : JavaMethod) :
    Rooted (survey.url controller method) :=
  (rooted_mappingPath _ _).append (rooted_mappingPath _ _)

theorem rooted_uriTemplate_iff {survey : Survey} {controller : JavaClass} {level : BoundClass}
    {method : JavaMethod} {endpoint : Endpoint}
    (h : survey.EndpointOf controller level method endpoint) :
    Rooted endpoint.uriTemplate ↔
      survey.settings.RemovesSegments (survey.url controller method) :=
  (UriTemplate.rooted_parse_iff h.uriTemplate).trans
    (Settings.rooted_normalizeUrl_iff (survey.rooted_url controller method))

/-- Every endpoint is read from a method whose path is empty or begins with a slash, as do the paths
of the class and of the method alone. Its template is so exactly if what the settings remove of the
path ends with a segment; and all templates are, exactly if this is so for every method that has an
endpoint. -/
theorem rooted_endpoints_iff (survey : Survey) {api : ApiDefinition} {d : Description}
    (hrun : run survey.describeApi .empty = (.ok api, d)) :
    (∀ group ∈ api.endpointGroups, ∀ endpoint ∈ group.endpoints.values,
      ∃ controller level method, survey.Served controller level method ∧
        survey.HasEndpoint api controller level method endpoint ∧
        Rooted (survey.classes.mappingPath controller.annotations) ∧
        Rooted (survey.classes.mappingPath method.annotations) ∧
        Rooted (survey.url controller method) ∧
        (Rooted endpoint.uriTemplate ↔
          survey.settings.RemovesSegments (survey.url controller method))) ∧
    ((∀ group ∈ api.endpointGroups, ∀ endpoint ∈ group.endpoints.values,
        Rooted endpoint.uriTemplate) ↔
      ∀ controller level method, survey.Served controller level method →
        survey.settings.RemovesSegments (survey.url controller method)) := by
  constructor
  · intro group hgroup endpoint hendpoint
    obtain ⟨controller, level, method, hserved, hhas⟩ := exists_served hrun hgroup hendpoint
    exact ⟨controller, level, method, hserved, hhas, rooted_mappingPath _ _,
      rooted_mappingPath _ _, survey.rooted_url controller method,
      rooted_uriTemplate_iff hhas.read⟩
  · constructor
    · intro hrooted controller level method hserved
      obtain ⟨endpoint, hread, group, hgroup, -, hfound⟩ := exists_endpoint hrun hserved
      apply (rooted_uriTemplate_iff hread).mp
      exact hrooted group hgroup endpoint ((NameMap.mem_values_iff _ _).mpr ⟨_, hfound⟩)
    · intro hremoves group hgroup endpoint hendpoint
      obtain ⟨controller, level, method, hserved, hhas⟩ := exists_served hrun hgroup hendpoint
      exact (rooted_uriTemplate_iff hhas.read).mpr (hremoves controller level method hserved)

/-- A controller with one endpoint at the path, and the start that its URLs lose. -/
def listedAt (path lead : String) : Survey :=
  ⟨.ofClasses [classOfMethods "a.Orders" .object [.mk restController []]
    [publicMethod "list" (.basic "void") [.mk requestMapping [("path", .string path)]] []]],
    { Settings.empty with removedUrlPrefix := lead }⟩

/-- The templates of the endpoints of an API, by their names. -/
def templates (api : ApiDefinition) : List (String × String) :=
  api.endpointGroups.flatMap fun group => group.endpoints.entries.map fun e =>
    (e.1, e.2.uriTemplate)

theorem rooted_endpoints_orders :
    ∃ api d, run (listedAt "api/orders" "/api").describeApi .empty = (.ok api, d) ∧
      templates api = [("list", "/orders")] ∧
      ∀ controller level method, (listedAt "api/orders" "/api").Served controller level method →
        (listedAt "api/orders" "/api").settings.RemovesSegments
          ((listedAt "api/orders" "/api").url controller method) := by
  let survey := listedAt "api/orders" "/api"
  have hrun : run survey.describeApi .empty =
      (.ok (run survey.describeApi .empty).2.api, (run survey.describeApi .empty).2) :=
    run_eq_of_fst (by decide +kernel)
  obtain ⟨-, hrooted⟩ := rooted_endpoints_iff survey hrun
  exact ⟨_, _, hrun, by decide +kernel, hrooted.mp (by decide +kernel)⟩

/-- What is removed of the URL can also end within a segment. -/
theorem template_cut_in_segment :
    ∃ api d, run (listedAt "/apiary" "/api").describeApi .empty = (.ok api, d) ∧
      templates api = [("list", "ary")] ∧
      ¬ ∀ group ∈ api.endpointGroups, ∀ endpoint ∈ group.endpoints.values,
        Rooted endpoint.uriTemplate := by
  let act := (listedAt "/apiary" "/api").describeApi
  have hrun : run act .empty = (.ok (run act .empty).2.api, (run act .empty).2) :=
    run_eq_of_fst (by decide +kernel)
  exact ⟨_, _, hrun, by decide +kernel⟩

end Survey

end ApiSurface
