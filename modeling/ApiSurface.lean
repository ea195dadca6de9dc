import ApiSurface.Main
import ApiSurface.Proofs.NameMeaning
import ApiSurface.Proofs.Tours
import ApiSurface.Proofs.BeanPopulation
import ApiSurface.Proofs.RootOrder
import ApiSurface.Proofs.RenamedReading
import ApiSurface.Proofs.EndpointReading
import ApiSurface.Proofs.Hygiene
import ApiSurface.Proofs.Repetition
import ApiSurface.Proofs.InternalFailures
import ApiSurface.Proofs.Substitution
import ApiSurface.Proofs.Termination
import ApiSurface.Proofs.Patience
import ApiSurface.Proofs.GroupNames
import ApiSurface.Proofs.Minimality
import ApiSurface.Proofs.Elaboration
import ApiSurface.Proofs.DefinitionStore
import ApiSurface.Proofs.MethodDescriptors
import ApiSurface.Proofs.HierarchyEnvironments
import ApiSurface.Proofs.MethodParameters
import ApiSurface.Proofs.ReaderSafety
import ApiSurface.Proofs.HierarchyOrder
import ApiSurface.Proofs.InstanceSearch
import ApiSurface.Proofs.AliasChains
import ApiSurface.Proofs.ImpliedAnnotations
import ApiSurface.Proofs.Inlining
import ApiSurface.Proofs.HiddenMembers
import ApiSurface.Proofs.SerializedProperties
import ApiSurface.Proofs.UnionCases
import ApiSurface.Proofs.VoidResponses
import ApiSurface.Proofs.PlainTemplates
import ApiSurface.Proofs.RootedTemplates
import ApiSurface.Proofs.SingleNulls
import ApiSurface.Proofs.Imports
import ApiSurface.Proofs.RecordOrder
import ApiSurface.Proofs.FollowedVariables
import ApiSurface.Proofs.ArenaRuns
