import Grunt.Value
import Grunt.Stack
import Grunt.StackRefinement
import Grunt.Input
import Grunt.Output
import Grunt.Vm
import Grunt.Machine
import Grunt.Simulation
import Grunt.Hoare
import Grunt.Control
import Grunt.Run
import Grunt.CallStack
import Grunt.Safety
import Grunt.History
import Grunt.Steps
import Grunt.Operators
import Grunt.Symbolic
import Grunt.SymbolicSound
import Grunt.Validator.Program
import Grunt.Validator.Table
import Grunt.Validator.Reference
import Grunt.Validator.Runs
import Grunt.Validator.Entry
import Grunt.Validator.Main
import Grunt.Validator.Native
import Grunt.Validator.Policy
import Grunt.Validator.Verdict
import Grunt.Validator.File
import Grunt.Validator.Events
import Grunt.Validator.App
import Grunt.Validator.Expect
