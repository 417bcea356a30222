import ScriptStudio.Console.SelfTest
import ScriptStudio.Disk.Changes
import ScriptStudio.Main
import ScriptStudio.Studio.Launch
import ScriptStudio.Studio.Look
import ScriptStudio.Proofs.Activation
import ScriptStudio.Proofs.CallByValue
import ScriptStudio.Proofs.Leftovers
import ScriptStudio.Proofs.LeadingName
import ScriptStudio.Proofs.EarlyExit
import ScriptStudio.Proofs.UnnamedVariable
import ScriptStudio.Proofs.InteractiveSession
import ScriptStudio.Proofs.Parentheses
import ScriptStudio.Proofs.StringLiterals
import ScriptStudio.Proofs.CountingLoops
import ScriptStudio.Proofs.Comparisons
import ScriptStudio.Proofs.BracketMatch
import ScriptStudio.Proofs.NumberText
import ScriptStudio.Proofs.FindNext
import ScriptStudio.Proofs.CompletedWord
import ScriptStudio.Proofs.Uncommenting
import ScriptStudio.Proofs.ErrorLine
import ScriptStudio.Proofs.HighlightedStrings
import ScriptStudio.Proofs.UneditedFiles
import ScriptStudio.Proofs.SettingsAtStart
import ScriptStudio.Proofs.InteractiveLines
import ScriptStudio.Proofs.LongestMatch
import ScriptStudio.Proofs.OutlinedNodes
import ScriptStudio.Proofs.ExplorerTree
