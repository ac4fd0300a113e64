import Stylesheet.Main
import Stylesheet.Proofs.AnimationTexts
import Stylesheet.Proofs.CataloguedCalls
import Stylesheet.Proofs.ClassNames
import Stylesheet.Proofs.CompileCommand
import Stylesheet.Proofs.CompileFailures
import Stylesheet.Proofs.DeclaredProperties
import Stylesheet.Proofs.DefinedAnimations
import Stylesheet.Proofs.Duplicates
import Stylesheet.Proofs.EmptyItems
import Stylesheet.Proofs.FailedCalls
import Stylesheet.Proofs.FallbackChains
import Stylesheet.Proofs.FallbackText
import Stylesheet.Proofs.FreshKeys
import Stylesheet.Proofs.GroupedItems
import Stylesheet.Proofs.Interleaving
import Stylesheet.Proofs.NameSpellings
import Stylesheet.Proofs.Offsets
import Stylesheet.Proofs.PairFormRules
import Stylesheet.Proofs.Paths
import Stylesheet.Proofs.Pruning
import Stylesheet.Proofs.RejectedAnimations
import Stylesheet.Proofs.Reload
import Stylesheet.Proofs.RespelledRules
import Stylesheet.Proofs.Scope
import Stylesheet.Proofs.SelfReference
import Stylesheet.Proofs.SettingsPrecedence
import Stylesheet.Proofs.SingleBlocks
import Stylesheet.Proofs.SplitRules
import Stylesheet.Proofs.SwitchWords
