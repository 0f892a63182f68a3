import Coursework.Proofs.Api.Admission
import Coursework.Proofs.Api.Service

/-! # Requests that lead to a service

A request that leads to a service has one of the methods of the routes, so that it asks nothing
beforehand and its response is shown in full.

* **`Way.method_of_service`** is about the methods, **`ends_of_way`** about the response.
* **`Names`** says that a request names a number to a service; **`ends_of_names`** is the work
  that it leads to. -/

namespace Coursework.Api

/-! ## (1) Methods -/

/-- The methods that lead to services. -/
def servedMethods : List Text := ["POST", "PUT", "GET"]

theorem method_mem_of_mem_routes : ∀ route ∈ routes, route.method ∈ servedMethods := by
  decide

/-- A request that leads to a service has one of these methods. -/
theorem Way.method_of_service {request : Web.Request} {service : Service} {parts : List Text}
    (way : Way.ofRequest request = .service service parts) : request.method ∈ servedMethods := by
  rw [Way.ofRequest, Way.ofPath] at way
  split at way
  next route _ found =>
    have known := List.find?_some found
    obtain ⟨other, member, open?⟩ := List.mem_filterMap.mp (List.mem_of_find?_eq_some found)
    obtain ⟨_, -, h⟩ := Option.map_eq_some_iff.mp open?
    obtain rfl := (Prod.mk.inj h).1
    rw [← of_decide_eq_true known]
    exact method_mem_of_mem_routes other member
  next => cases way
  next => split at way <;> cases way

/-! ## (2) Responses -/

section Ways

variable {request : Web.Request} {service : Service} {parts : List Text}

theorem preflight?_of_way (way : Way.ofRequest request = .service service parts) :
    Web.preflight? request = none := by
  rw [Web.preflight?]
  split
  · rw [if_neg]
    intro options
    have served := Way.method_of_service way
    rw [options] at served
    revert served
    decide
  · rfl

theorem withoutContent_of_way (way : Way.ofRequest request = .service service parts)
    (response : Web.Response) : withoutContent request response = response := by
  rw [withoutContent, if_neg]
  intro head
  have served := Way.method_of_service way
  rw [head] at served
  revert served
  decide

/-- The response is what the work of the service concludes with. -/
theorem ends_of_way (way : Way.ofRequest request = .service service parts) (world : World) :
    ∃ result, Ends (perform request parts service) world result (answer request world).2 ∧
      (answer request world).1 = conclude request result := by
  obtain ⟨result, ends, concluded⟩ := ends_answer (preflight?_of_way way) world
  rw [serve, way] at ends
  rw [withoutContent_of_way way] at concluded
  exact ⟨result, ends, concluded⟩

end Ways

/-! ## (3) Numbers in paths -/

/-- A request leads to a service and names a number to it. -/
def Names (request : Web.Request) (service : Service) (number : Int) : Prop :=
  ∃ parts, Way.ofRequest request = .service service parts ∧
    Form.readInteger (parts.headD []) = .ok number

/-- It names one number. -/
theorem Names.unique {request : Web.Request} {service : Service} {number other : Int}
    (names : Names request service number) (again : Names request service other) :
    number = other := by
  obtain ⟨parts, way, read⟩ := names
  obtain ⟨_, again, reread⟩ := again
  obtain ⟨-, rfl⟩ := Way.service.inj (way.symm.trans again)
  exact Except.ok.inj (read.symm.trans reread)

/-- A request from an educator that names a number to a service leads to its work with that
number. -/
theorem ends_of_names {request : Web.Request} {service : Service} {number : Int} {name : Text}
    {work : Remote.Educator → Int → Work Web.Response} {world : World}
    {educator : Remote.Educator}
    (performs : ∀ parts, perform request parts service = serveNumber request name parts work)
    (admits : Admits world request educator) (names : Names request service number) :
    ∃ result, Ends (work educator number) (asked world request) result
        (answer request world).2 ∧
      (answer request world).1 = conclude request result := by
  obtain ⟨parts, way, read⟩ := names
  obtain ⟨result, ends, concluded⟩ := ends_of_way way world
  rw [performs] at ends
  exact ⟨result, ends_of_number admits read ends, concluded⟩

end Coursework.Api
